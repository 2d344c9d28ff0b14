import CardLink.Countdown
import CardLink.Proofs.Since
import Mathlib.Data.List.Induction

namespace CardLink

theorem bind_ok {α β : Type} {x : Except Fault α} {next : α → Except Fault β} {result : β}
    (performed : x >>= next = .ok result) : ∃ a, x = .ok a ∧ next a = .ok result := by
  cases x with
  | error fault => exact nomatch performed
  | ok a => exact ⟨a, rfl, performed⟩

namespace Countdown

inductive Call where
  | arm (limit : Nat)
  | tick (step : Nat)
  | cancel
  | clear
  deriving DecidableEq

/-- It leaves nothing of what came before. -/
def Call.Restarts : Call → Prop
  | arm _ | clear => True
  | tick _ | cancel => False

instance : DecidablePred Call.Restarts
  | .arm _ | .clear => .isTrue trivial
  | .tick _ | .cancel => .isFalse id

/-- The time that passes in the call. -/
def Call.step : Call → Nat
  | tick step => step
  | arm _ | cancel | clear => 0

def perform? (c : Countdown) : Call → Except Fault Countdown
  | .arm limit => .ok (c.arm limit)
  | .tick step => c.tick? step
  | .cancel => .ok c.cancel
  | .clear => .ok c.clear

/-- What the calls make of a new countdown, unless an elapsed time does not fit its word. -/
def after? (calls : List Call) : Except Fault Countdown := calls.foldlM perform? {}

/-- The sum of the steps. -/
def time : List Call → Nat
  | [] => 0
  | call :: calls => call.step + time calls

/-- A tick that no cancel precedes brings the sum of the steps to the limit. -/
def RunsOut (limit : Nat) : List Call → Prop :=
  Happened fun older call =>
    ∃ step, call = .tick step ∧ .cancel ∉ older ∧ limit ≤ time older + step

/-- A cancel comes before any such tick. -/
def CalledOff (limit : Nat) : List Call → Prop :=
  Happened fun older call => call = .cancel ∧ ¬RunsOut limit older

/-- The latest call that restarts the countdown, and those that have come since. -/
structure Latest (calls : List Call) (start : Call) (since : List Call) : Prop where
  restarts : start.Restarts
  split : ∃ older, calls = older ++ start :: since
  still : ∀ call ∈ since, ¬call.Restarts

/-- The countdown has been armed with this limit, and neither stopped nor run out since. -/
structure Running (calls : List Call) (limit : Nat) (since : List Call) : Prop where
  latest : Latest calls (.arm limit) since
  uncancelled : .cancel ∉ since
  early : ¬RunsOut limit since

/-- The call adds a step to the time of a running countdown, and the sum does not fit its word. -/
def Overflows (older : List Call) (call : Call) : Prop :=
  ∃ limit since step, call = .tick step ∧ Running older limit since ∧ timeBound ≤ time since + step

/-- All sums of steps that a running countdown makes fit their word. -/
def Fits (calls : List Call) : Prop := ¬Happened Overflows calls

variable {limit : Nat} {calls since : List Call} {call : Call} {c d : Countdown}

theorem time_append (calls : List Call) (call : Call) :
    time (calls ++ [call]) = time calls + call.step := by
  induction calls with
  | nil => exact Nat.add_comm ..
  | cons first calls ih => rw [List.cons_append, time, ih, time, Nat.add_assoc]

theorem runsOut_append : RunsOut limit (calls ++ [call]) ↔ RunsOut limit calls ∨
    ∃ step, call = .tick step ∧ .cancel ∉ calls ∧ limit ≤ time calls + step :=
  happened_append

theorem calledOff_append : CalledOff limit (calls ++ [call]) ↔ CalledOff limit calls ∨
    call = .cancel ∧ ¬RunsOut limit calls :=
  happened_append

theorem fits_append : Fits (calls ++ [call]) ↔ Fits calls ∧ ¬Overflows calls call := by
  rw [Fits, happened_append, not_or, Fits]

theorem CalledOff.mem (off : CalledOff limit calls) : .cancel ∈ calls := by
  obtain ⟨older, _, newer, rfl, rfl, -⟩ := off
  exact List.mem_append_right _ List.mem_cons_self

/-- The first of the two that happens keeps the other from happening. -/
theorem RunsOut.not_calledOff (late : RunsOut limit calls) : ¬CalledOff limit calls := by
  induction calls using List.reverseRecOn with
  | nil => exact absurd late not_happened_nil
  | append_singleton calls call ih =>
    intro off
    -- The last call is not both a tick and a cancel: one of the two held before it.
    rcases runsOut_append.mp late with before | ⟨step, rfl, uncancelled, -⟩
    · rcases calledOff_append.mp off with sooner | ⟨rfl, early⟩
      · exact ih before sooner
      · exact early before
    · rcases calledOff_append.mp off with sooner | ⟨other, -⟩
      · exact uncancelled sooner.mem
      · exact nomatch other

/-- What no cancel and no tick has ended has not passed its limit. -/
theorem time_le_of_early (uncancelled : .cancel ∉ calls) (early : ¬RunsOut limit calls) :
    time calls ≤ limit := by
  induction calls using List.reverseRecOn with
  | nil => exact limit.zero_le
  | append_singleton calls call ih =>
    have running : .cancel ∉ calls := fun member => uncancelled (List.mem_append_left _ member)
    have before : time calls ≤ limit :=
      ih running fun late => early (runsOut_append.mpr (.inl late))
    rw [time_append]
    cases call with
    | tick step =>
      have short : ¬limit ≤ time calls + step := fun late =>
        early (runsOut_append.mpr (.inr ⟨step, rfl, running, late⟩))
      exact Nat.le_of_not_le short
    | arm | cancel | clear => exact before

/-- What has become of a countdown since it was armed with this limit. -/
inductive Course (limit : Nat) (since : List Call) : Countdown → Prop
  | running (uncancelled : .cancel ∉ since) (early : ¬RunsOut limit since) :
      Course limit since ⟨limit, time since, .armed⟩
  | expired (late : RunsOut limit since) {elapsed : Nat} :
      Course limit since ⟨limit, elapsed, .expired⟩
  | cancelled (off : CalledOff limit since) {elapsed : Nat} :
      Course limit since ⟨limit, elapsed, .cancelled⟩

namespace Course

theorem start (c : Countdown) (limit : Nat) : Course limit [] (c.arm limit) :=
  .running List.not_mem_nil not_happened_nil

theorem tick (course : Course limit since c) (step : Nat) :
    Course limit (since ++ [.tick step]) (c.tick step) := by
  cases course with
  | expired late => exact .expired (runsOut_append.mpr (.inl late))
  | cancelled off => exact .cancelled (calledOff_append.mpr (.inl off))
  | running uncancelled early =>
    by_cases late : limit ≤ time since + step
    · simp only [Countdown.tick, if_true, late]
      exact .expired (runsOut_append.mpr (.inr ⟨step, rfl, uncancelled, late⟩))
    · simp only [Countdown.tick, if_true, late, if_false]
      have still : Call.cancel ∉ since ++ [.tick step] := by simpa using uncancelled
      have short : ¬RunsOut limit (since ++ [.tick step]) := fun sum => by
        rcases runsOut_append.mp sum with before | ⟨_, same, -, reached⟩
        · exact early before
        · cases same
          exact late reached
      exact time_append since (.tick step) ▸ .running still short

theorem cancel (course : Course limit since c) : Course limit (since ++ [.cancel]) c.cancel := by
  cases course with
  | expired late => exact .expired (runsOut_append.mpr (.inl late))
  | cancelled off => exact .cancelled (calledOff_append.mpr (.inl off))
  | running _ early => exact .cancelled (calledOff_append.mpr (.inr ⟨rfl, early⟩))

/-- One more call that does not restart the countdown. -/
theorem perform (course : Course limit since c) (still : ¬call.Restarts)
    (performed : c.perform? call = .ok d) : Course limit (since ++ [call]) d := by
  cases call with
  | arm | clear => exact absurd trivial still
  | cancel =>
    cases performed
    exact course.cancel
  | tick step =>
    rw [perform?, tick?] at performed
    split at performed
    · cases performed
    · cases performed
      exact course.tick step

/-- All that comes until the next restart. -/
theorem perform_all (course : Course limit since c) {newer : List Call}
    (still : ∀ call ∈ newer, ¬call.Restarts) (performed : newer.foldlM perform? c = .ok d) :
    Course limit (since ++ newer) d := by
  induction newer generalizing c since with
  | nil =>
    cases performed
    exact (List.append_nil since).symm ▸ course
  | cons call newer ih =>
    obtain ⟨here, later⟩ := List.forall_mem_cons.mp still
    rw [List.foldlM_cons] at performed
    obtain ⟨next, first, rest⟩ := bind_ok performed
    rw [List.append_cons]
    exact ih (course.perform here first) later rest

theorem expired_iff (course : Course limit since c) : c.phase = .expired ↔ RunsOut limit since := by
  cases course with
  | running _ early => exact iff_of_false nofun early
  | expired late => exact iff_of_true rfl late
  | cancelled off => exact iff_of_false nofun fun late => late.not_calledOff off

theorem cancelled_iff (course : Course limit since c) :
    c.phase = .cancelled ↔ CalledOff limit since := by
  cases course with
  | running uncancelled _ => exact iff_of_false nofun fun off => uncancelled off.mem
  | expired late => exact iff_of_false nofun late.not_calledOff
  | cancelled off => exact iff_of_true rfl off

/-- Otherwise it runs; the rest of its time and the time that has passed make up its limit. -/
theorem otherwise (course : Course limit since c) (early : ¬RunsOut limit since)
    (wanted : ¬CalledOff limit since) :
    c.phase = .armed ∧ c.remaining + time since = limit := by
  cases course with
  | running uncancelled => exact ⟨rfl, Nat.sub_add_cancel (time_le_of_early uncancelled early)⟩
  | expired late => exact absurd late early
  | cancelled off => exact absurd off wanted

end Course

theorem after?_append (calls : List Call) (call : Call) :
    after? (calls ++ [call]) = after? calls >>= (perform? · call) := by
  simp only [after?, List.foldlM_append, List.foldlM_cons, List.foldlM_nil, bind_pure]

/-- What calls make of any countdown, where they start over on the way. -/
theorem after?_split {older : List Call} {start : Call}
    (performed : after? (older ++ start :: since) = .ok c) :
    ∃ b s, perform? b start = .ok s ∧ since.foldlM perform? s = .ok c := by
  rw [after?, List.foldlM_append] at performed
  obtain ⟨b, -, performed⟩ := bind_ok performed
  rw [List.foldlM_cons] at performed
  exact ⟨b, bind_ok performed⟩

theorem Latest.course (latest : Latest calls (.arm limit) since)
    (performed : after? calls = .ok c) : Course limit since c := by
  obtain ⟨older, rfl⟩ := latest.split
  obtain ⟨b, s, armed, rest⟩ := after?_split performed
  cases armed
  exact (Course.start b limit).perform_all latest.still rest

/-- Nothing but an arm moves a new countdown. -/
theorem foldlM_idle (still : ∀ call ∈ since, ¬call.Restarts) :
    since.foldlM perform? {} = .ok {} := by
  induction since with
  | nil => rfl
  | cons call since ih =>
    obtain ⟨here, later⟩ := List.forall_mem_cons.mp still
    rw [List.foldlM_cons]
    cases call with
    | arm | clear => exact absurd trivial here
    | tick | cancel => exact ih later

theorem Latest.cleared (latest : Latest calls .clear since) (performed : after? calls = .ok c) :
    c = {} := by
  obtain ⟨older, rfl⟩ := latest.split
  obtain ⟨b, s, cleared, rest⟩ := after?_split performed
  cases cleared
  exact Except.ok.inj (rest.symm.trans (foldlM_idle latest.still))

theorem latest_or (calls : List Call) :
    (∀ call ∈ calls, ¬call.Restarts) ∨ ∃ start since, Latest calls start since := by
  induction calls using List.reverseRecOn with
  | nil => exact .inl (List.forall_mem_nil _)
  | append_singleton calls call ih =>
    by_cases restarts : call.Restarts
    · exact .inr ⟨call, [], restarts, ⟨calls, rfl⟩, List.forall_mem_nil _⟩
    · rcases ih with never | ⟨start, since, latest⟩
      · exact .inl (List.forall_mem_append.mpr ⟨never, List.forall_mem_singleton.mpr restarts⟩)
      · obtain ⟨older, rfl⟩ := latest.split
        refine .inr ⟨start, since ++ [call], latest.restarts, ⟨older, ?_⟩, ?_⟩
        · exact List.append_assoc ..
        · exact List.forall_mem_append.mpr ⟨latest.still, List.forall_mem_singleton.mpr restarts⟩

/-- What runs has been armed and counts the steps since. -/
theorem running_of_armed (performed : after? calls = .ok c) (armed : c.phase = .armed) :
    ∃ limit since, Running calls limit since ∧ c.elapsed = time since := by
  rcases latest_or calls with never | ⟨start, since, latest⟩
  · cases Except.ok.inj (performed.symm.trans (foldlM_idle never))
    exact nomatch armed
  · cases start with
    | tick | cancel => exact absurd latest.restarts id
    | clear =>
      cases latest.cleared performed
      exact nomatch armed
    | arm limit =>
      cases latest.course performed with
      | running uncancelled early => exact ⟨limit, since, ⟨latest, uncancelled, early⟩, rfl⟩
      | expired | cancelled => exact nomatch armed

theorem Running.armed (running : Running calls limit since) (performed : after? calls = .ok c) :
    c.phase = .armed ∧ c.elapsed = time since := by
  cases running.latest.course performed with
  | running => exact ⟨rfl, rfl⟩
  | expired late => exact absurd late running.early
  | cancelled off => exact absurd off.mem running.uncancelled

/-- A call is refused just if it overflows. -/
theorem perform?_ok_iff (performed : after? calls = .ok c) :
    (∃ d, c.perform? call = .ok d) ↔ ¬Overflows calls call := by
  cases call with
  | arm | cancel | clear =>
    exact iff_of_true ⟨_, rfl⟩ fun ⟨_, _, _, other, _⟩ => nomatch other
  | tick step =>
    rw [perform?, tick?]
    split
    · rename_i refused
      obtain ⟨limit, since, running, elapsed⟩ := running_of_armed performed refused.1
      refine iff_of_false nofun (not_not_intro ⟨limit, since, step, rfl, running, ?_⟩)
      exact elapsed ▸ refused.2
    · rename_i accepted
      refine iff_of_true ⟨_, rfl⟩ ?_
      rintro ⟨limit, since, _, same, running, long⟩
      cases same
      obtain ⟨armed, elapsed⟩ := running.armed performed
      exact accepted ⟨armed, elapsed ▸ long⟩

/-- The calls come to a result just if all sums fit. -/
theorem fits_iff : Fits calls ↔ ∃ c, after? calls = .ok c := by
  induction calls using List.reverseRecOn with
  | nil => exact iff_of_true not_happened_nil ⟨{}, rfl⟩
  | append_singleton calls call ih =>
    rw [fits_append, ih, after?_append]
    cases performed : after? calls with
    | error fault => exact iff_of_false nofun nofun
    | ok c =>
      rw [← perform?_ok_iff performed]
      exact and_iff_right ⟨c, rfl⟩

theorem remaining_of_unarmed (unarmed : c.phase ≠ .armed) : c.remaining = 0 :=
  if_neg fun armed => unarmed (beq_iff_eq.mp armed)

/-- Calls whose sums fit leave a countdown that is idle if it was never armed or has been cleared
since. If an arm is the latest restart, the calls since tell what has become of it: it has expired
once a tick before any cancel brought the sum of their steps to the limit, it is cancelled if a
cancel came before any such tick, and otherwise it runs, with the rest of its limit remaining. -/
theorem calls_accounted (fits : Fits calls) : ∃ c, after? calls = .ok c ∧
    ((∀ call ∈ calls, ¬call.Restarts) ∨ (∃ since, Latest calls .clear since) → c.phase = .idle) ∧
    (∀ limit since, Latest calls (.arm limit) since →
      (c.phase = .expired ↔ RunsOut limit since) ∧
      (c.phase = .cancelled ↔ CalledOff limit since) ∧
      (¬RunsOut limit since → ¬CalledOff limit since →
        c.phase = .armed ∧ c.remaining + time since = limit)) ∧
    (c.phase ≠ .armed → c.remaining = 0) := by
  obtain ⟨c, performed⟩ := fits_iff.mp fits
  refine ⟨c, performed, ?_, fun limit since latest => ?_, remaining_of_unarmed⟩
  · rintro (never | ⟨since, latest⟩)
    · cases Except.ok.inj (performed.symm.trans (foldlM_idle never))
      rfl
    · cases latest.cleared performed
      rfl
  · have course := latest.course performed
    exact ⟨course.expired_iff, course.cancelled_iff, course.otherwise⟩

/-- The steps before the arm and after the end would not fit together with those that count. A
cancel after the end changes nothing, and neither does a step after a cancel. -/
theorem calls_accounted_between :
    let older := [Call.tick (timeBound - 1), .arm 0, .tick 0, .clear]
    let late := [Call.tick 100, .tick 150, .cancel, .tick (timeBound - 1)]
    let off := [Call.tick 100, .cancel, .tick (timeBound - 1), .cancel]
    let still := [Call.tick 100, .tick 0]
    (∀ since ∈ [late, off, still],
      Fits (older ++ .arm 250 :: since) ∧ Latest (older ++ .arm 250 :: since) (.arm 250) since) ∧
    RunsOut 250 late ∧ CalledOff 250 off ∧ ¬RunsOut 250 still ∧ ¬CalledOff 250 still ∧
    ∃ c, after? (older ++ .arm 250 :: still) = .ok c ∧
      c.phase = .armed ∧ c.remaining + time still = 250 := by
  intro older late off still
  have fits : ∀ since ∈ [late, off, still], Fits (older ++ .arm 250 :: since) := by
    simp only [List.forall_mem_cons]
    exact ⟨fits_iff.mpr ⟨_, rfl⟩, fits_iff.mpr ⟨_, rfl⟩, fits_iff.mpr ⟨_, rfl⟩, nofun⟩
  have latest : ∀ since ∈ [late, off, still],
      Latest (older ++ .arm 250 :: since) (.arm 250) since := by
    have quiet : ∀ since ∈ [late, off, still], ∀ call ∈ since, ¬call.Restarts := by decide
    exact fun since one => ⟨trivial, ⟨older, rfl⟩, quiet since one⟩
  have first : late ∈ [late, off, still] := .head _
  have second : off ∈ [late, off, still] := .tail _ (.head _)
  have third : still ∈ [late, off, still] := .tail _ (.tail _ (.head _))
  obtain ⟨c, lateRan, -, course, -⟩ := calls_accounted (fits late first)
  obtain ⟨expired, -, -⟩ := course 250 late (latest late first)
  cases lateRan
  obtain ⟨c, offRan, -, course, -⟩ := calls_accounted (fits off second)
  obtain ⟨-, cancelled, -⟩ := course 250 off (latest off second)
  cases offRan
  obtain ⟨c, stillRan, -, course, -⟩ := calls_accounted (fits still third)
  obtain ⟨early, wanted, running⟩ := course 250 still (latest still third)
  cases stillRan
  have early : ¬RunsOut 250 still := mt early.mpr nofun
  have wanted : ¬CalledOff 250 still := mt wanted.mpr nofun
  exact ⟨fun since one => ⟨fits since one, latest since one⟩, expired.mp rfl, cancelled.mp rfl,
    early, wanted, _, rfl, running early wanted⟩

end Countdown

end CardLink
