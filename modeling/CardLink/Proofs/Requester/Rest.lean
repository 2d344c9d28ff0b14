import CardLink.Proofs.Requester.Agreement
import Mathlib.Control.Monad.Basic

namespace CardLink

/-- The buffer of the caller once a request with this answer is over. -/
def Request.fill (buffer : List UInt8) : Except CommandError (List UInt8) → List UInt8
  | .ok reply => reply ++ buffer.drop reply.length
  | .error _ => buffer

theorem EventPacket.parse_refused {raw : List UInt8} {error : CommandError}
    (refused : EventPacket.parse raw = .error error) : error = .malformed := by
  unfold parse at refused
  split at refused
  · split at refused <;> cases refused
    rfl
  · cases refused
    rfl

theorem Platform.send_refused {p after : Platform} {frame : List UInt8} {error : WriteError}
    (refused : p.send frame = (.error error, after)) : after.queue = p.queue := by
  unfold send at refused
  split at refused <;> cases refused
  rfl

namespace Requester

variable {σ : Type} {r : Requester} {size period : Nat}

/-- Every slot is free, both queues are empty, no command is outstanding, and no clock runs. -/
structure AtRest (r : Requester) (size : Nat) : Prop where
  pool : r.pool.AtRest
  capacity : r.pool.capacity = size
  idle : r.busy = false
  clock : r.clock.phase = .idle

/-- There is a slot for the packet, and the queue where it belongs takes the slot. -/
def Takes (r : Requester) (request : Request) (raw : List UInt8) : Prop :=
  ∃ slot held queued, r.pool.intake raw = (.ok slot, held) ∧
    held.enqueue (if request.isReply (held.packet slot) then .reply else .pending) slot =
      .ok queued

/-- The request ends before its wait: no event is taken, and the requester, the listener and the
buffer of the caller are as they were. -/
def Unbegun (r : Requester) (listener : Listener σ) (request : Request) (p : Platform) (s : σ)
    (error : CommandError) (after : Platform) : Prop :=
  r.ask listener request p s = (.error error, r, after, s) ∧ after.queue = p.queue ∧
    ∀ buffer, Request.fill buffer (r.ask listener request p s).1 = buffer

/-- A request clears the clock that it has armed, and a delivery has none. -/
theorem Reach.clock (reach : Reach size period r) : r.clock.phase = .idle := by
  induction reach with
  | start => rfl
  | asked _ listener request p s ih =>
    unfold ask
    split
    · exact ih
    · rfl
  | delivered _ listener raw s ih =>
    unfold deliver
    split
    · exact ih
    · split <;> exact ih

/-- A pool at rest has a slot for a packet, and its queues have room for it. -/
theorem Settled.takes {elapsed : Nat} (settled : r.Settled size period elapsed)
    (positive : 0 < size) (request : Request) {raw : List UInt8} {packet : EventPacket}
    (parsed : EventPacket.parse raw = .ok packet) : r.Takes request raw := by
  have some : 0 < r.pool.capacity := settled.capacity ▸ positive
  obtain ⟨slot, held, intake, lent, -, -⟩ := settled.rest.intake_taken some parsed
  refine ⟨slot, held, ?_⟩
  split
  · exact ⟨_, intake, lent.enqueue_reply⟩
  · exact ⟨_, intake, lent.enqueue_pending⟩

/-- A wait that has taken undecided events goes on with what they have left. -/
theorem Waiting.append {request : Request} {ticks : Nat} {earlier : List PlatformEvent}
    (waiting : r.Waiting size period request.limit (ticks * period)) (positive : 0 < size)
    (undecided : request.Undecided period ticks earlier) (listener : Listener σ) (s : σ) :
    (wait listener request earlier r s).requester.Waiting size period request.limit
      ((ticks + earlier.count .tick) * period) ∧
    ∀ later, wait listener request (earlier ++ later) r s =
      wait listener request later (wait listener request earlier r s).requester
        (wait listener request earlier r s).state := by
  induction earlier generalizing r s ticks with
  | nil => exact ⟨waiting, fun later => rfl⟩
  | cons event earlier ih =>
    obtain ⟨after, -, step⟩ := waiting.step positive listener event s
    have passed : request.decision period ticks event = none := undecided [] event earlier rfl
    simp only [passed] at step
    have still : request.Undecided period (ticks + [event].count .tick) earlier := by
      intro before next later split
      have whole := undecided (event :: before) next later (by rw [split]; rfl)
      rwa [Request.ticks_cons, ← Nat.add_assoc] at whole
    rw [step.2 earlier, Request.ticks_cons, ← Nat.add_assoc]
    obtain ⟨standing, goesOn⟩ := ih step.1 still (request.observe listener s event)
    exact ⟨standing, fun later => (step.2 (earlier ++ later)).trans (goesOn later)⟩

theorem Resting.ask_long (resting : r.Resting size period) {request : Request}
    (long : 255 < request.params.length) (listener : Listener σ) (p : Platform) (s : σ) :
    r.Unbegun listener request p s .malformed p := by
  have asked : r.ask listener request p s = (.error .malformed, r, p, s) := by
    simp only [Requester.ask, Requester.issue, resting.idle, Bool.false_eq_true, if_false,
      Frame.build, long, if_true]
  exact ⟨asked, rfl, fun buffer => by rw [asked, Request.fill]⟩

theorem Resting.ask_refused (resting : r.Resting size period) {request : Request}
    (short : request.params.length ≤ 255) {p after : Platform} {error : WriteError}
    (refused : p.send request.frame = (.error error, after)) (listener : Listener σ) (s : σ) :
    r.Unbegun listener request p s (.link error) after := by
  have built : Frame.build request.opcode request.params = .ok request.frame :=
    if_neg (Nat.not_lt.mpr short)
  have asked : r.ask listener request p s = (.error (.link error), r, after, s) := by
    simp only [Requester.ask, Requester.issue, resting.idle, Bool.false_eq_true, if_false, built,
      refused]
  exact ⟨asked, Platform.send_refused refused, fun buffer => by rw [asked, Request.fill]⟩

theorem Resting.issue_answer (resting : r.Resting size period) {request : Request}
    {p after : Platform} {error : CommandError}
    (failed : r.issue request p = (.error error, after)) :
    error = .malformed ∨ ∃ cause, error = .link cause := by
  simp only [Requester.issue, resting.idle, Bool.false_eq_true, if_false] at failed
  split at failed
  · rename_i built
    cases failed
    unfold Frame.build at built
    split at built <;> cases built
    exact .inl rfl
  · split at failed <;> cases failed
    exact .inr ⟨_, rfl⟩

end Requester

theorem Request.read_failed {request : Request} {raw : List UInt8} {error : CommandError}
    (failed : request.read raw = .decided (.error error)) :
    error ≠ .busy ∧ error ≠ .poolExhausted := by
  unfold read readParams readStatus at failed
  repeat' split at failed
  all_goals cases failed
  all_goals exact ⟨nofun, nofun⟩

/-- The end of a wait names neither an outstanding command nor a shortage of slots. -/
theorem Request.Decided.failed {request : Request} {period ticks : Nat}
    {events taken rest : List PlatformEvent} {error : CommandError}
    (decided : request.Decided period ticks events (.error error) taken rest) :
    error ≠ .busy ∧ error ≠ .poolExhausted := by
  cases decided with
  | drained => exact ⟨nofun, nofun⟩
  | @first before _ event _ _ decides =>
    cases event with
    | hci raw =>
      simp only [decision] at decides
      split at decides
      · rename_i answer read
        cases decides
        exact Request.read_failed read
      · cases decides
    | tick =>
      simp only [decision] at decides
      split at decides <;> cases decides
      exact ⟨nofun, nofun⟩
    | usb | other => cases decides

namespace Requester

variable {σ : Type} {r : Requester} {size period : Nat}

/-- Neither an outstanding command nor a shortage of slots is ever the answer of a request. -/
theorem Resting.ask_answer (resting : r.Resting size period) (positive : 0 < size)
    (listener : Listener σ) (request : Request) (p : Platform) (s : σ) :
    (r.ask listener request p s).1 ≠ .error .busy ∧
      (r.ask listener request p s).1 ≠ .error .poolExhausted := by
  unfold Requester.ask
  split
  · rename_i error after failed
    rcases resting.issue_answer failed with rfl | ⟨cause, rfl⟩ <;> exact ⟨nofun, nofun⟩
  · rename_i sent written issued
    have waiting := resting.issue issued
    obtain ⟨answer, taken, rest, after, decided, -, waited⟩ :=
      waiting.decided positive listener written.queue s
    simp only [waited]
    exact ⟨fun busy => (busy ▸ decided).failed.1 rfl,
      fun exhausted => (exhausted ▸ decided).failed.2 rfl⟩

theorem Resting.deliver_answer (resting : r.Resting size period) (positive : 0 < size)
    (listener : Listener σ) (raw : List UInt8) (s : σ) :
    (r.deliver listener raw s).1 =
      match EventPacket.parse raw with
      | .ok _ => .ok ()
      | .error _ => .error .malformed := by
  have some : 0 < r.pool.capacity := resting.capacity ▸ positive
  unfold Requester.deliver
  cases parsed : EventPacket.parse raw with
  | error error =>
    obtain ⟨pool, intake, -, -⟩ := resting.rest.intake_refused some parsed
    rw [intake, EventPacket.parse_refused parsed]
  | ok packet =>
    obtain ⟨slot, pool, intake, lent, -, -⟩ := resting.rest.intake_taken some parsed
    simp only [intake, lent.enqueue_pending]

/-- After every call all slots are free, both queues are empty, no command is outstanding and the
clock is idle. So no call finds a command outstanding, a delivery refuses a packet only for its
form, and a request takes every well-formed packet that its wait comes to. A request that fails
before the wait takes no event and changes nothing but the script of the platform. -/
theorem Reach.at_rest (reach : Reach size period r) (positive : 0 < size) :
    r.AtRest size ∧
    (∀ {σ : Type} (listener : Listener σ) (raw : List UInt8) (s : σ),
      (r.deliver listener raw s).1 =
        match EventPacket.parse raw with
        | .ok _ => .ok ()
        | .error _ => .error .malformed) ∧
    ∀ {σ : Type} (listener : Listener σ) (request : Request) (p : Platform) (s : σ),
      (r.ask listener request p s).1 ≠ .error .busy ∧
      (r.ask listener request p s).1 ≠ .error .poolExhausted ∧
      (∀ sent written earlier raw later, r.issue request p = (.ok sent, written) →
        written.queue = earlier ++ .hci raw :: later → request.Undecided period 0 earlier →
        wait listener request written.queue sent s =
          wait listener request (.hci raw :: later)
            (wait listener request earlier sent s).requester
            (wait listener request earlier sent s).state ∧
        ∀ packet, EventPacket.parse raw = .ok packet →
          (wait listener request earlier sent s).requester.Takes request raw) ∧
      (255 < request.params.length → r.Unbegun listener request p s .malformed p) ∧
      ∀ error after, request.params.length ≤ 255 → p.send request.frame = (.error error, after) →
        r.Unbegun listener request p s (.link error) after := by
  have resting := reach.resting positive
  refine ⟨⟨resting.rest, resting.capacity, resting.idle, reach.clock⟩,
    resting.deliver_answer positive, fun listener request p s => ?_⟩
  have answered := resting.ask_answer positive listener request p s
  refine ⟨answered.1, answered.2, fun sent written earlier raw later issued queue undecided => ?_,
    fun long => resting.ask_long long listener p s,
    fun error after short refused => resting.ask_refused short refused listener s⟩
  have waiting := resting.issue issued
  obtain ⟨standing, goesOn⟩ := waiting.append positive undecided listener s
  refine ⟨?_, fun packet parsed => standing.takes positive request parsed⟩
  rw [queue]
  exact goesOn (.hci raw :: later)

/-- A single slot, after a request that timed out and a packet that was not whole. -/
theorem Reach.at_rest_single :
    let fresh : Requester := { pool := .ofSize 1, tick := 100000 }
    let listener : Listener (List EventPacket) := { packet := fun packet seen => packet :: seen }
    let request : Request := { opcode := 0x0C03, room := 4, limit := 100000 }
    let silent : Platform := { queue := [.hci [0x04, 0x05, 0x00], .tick], completes := false }
    let timedOut := (fresh.ask listener request silent []).2.1
    let r := (timedOut.deliver listener [0x04, 0x05, 0x01] []).2.1
    let broken : Platform := { queue := [.tick], outcomes := [some .io] }
    let sent := { r with busy := true, clock := r.clock.arm request.limit }
    (fresh.ask listener request silent []).1 = .error .timeout ∧
    Reach 1 100000 r ∧ r.AtRest 1 ∧
    (r.deliver listener [0x04, 0x05, 0x00] []).1 = .ok () ∧
    (wait listener request [.other] sent []).requester.Takes request [0x04, 0x05, 0x00] ∧
    r.Unbegun listener { request with params := List.replicate 256 0 } silent [] .malformed silent ∧
    r.Unbegun listener request broken [] (.link .io) (broken.send request.frame).2 := by
  intro fresh listener request silent timedOut r broken sent
  have timeout : (fresh.ask listener request silent []).1 = .error .timeout := by decide +kernel
  have new : Reach 1 100000 fresh := .start
  have asked : Reach 1 100000 timedOut := new.asked listener request silent []
  have reach : Reach 1 100000 r := asked.delivered listener [0x04, 0x05, 0x01] []
  obtain ⟨rest, deliveries, requests⟩ := reach.at_rest (by decide)
  let queued : Platform := { queue := [.other, .hci [0x04, 0x05, 0x00]], completes := false }
  have issued : r.issue request queued = (.ok sent, queued.accept request.frame) := by
    simp only [issue, rest.idle, Bool.false_eq_true, if_false]
    rfl
  have undecided : request.Undecided 100000 0 [.other] := Request.undecided_nil.cons rfl
  have long : 255 < (List.replicate 256 (0 : UInt8)).length := by
    rw [List.length_replicate]
    decide
  obtain ⟨-, -, takes, -, refused⟩ := requests listener request queued []
  exact ⟨timeout, reach, rest, deliveries listener _ [],
    (takes sent _ [.other] _ [] issued rfl undecided).2 _ rfl,
    (requests listener _ silent []).2.2.2.1 long,
    (requests listener request broken []).2.2.2.2 .io _ (by decide) rfl⟩

end Requester

end CardLink
