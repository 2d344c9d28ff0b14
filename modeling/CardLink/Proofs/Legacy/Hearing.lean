import CardLink.Proofs.Legacy.Resting
import CardLink.Proofs.Packet
import CardLink.Proofs.Requester.Spending

namespace CardLink

namespace Platform

/-- The radio is not switched by these acts. -/
theorem radio_of_log {p after : Platform} {acts : List PlatformAct}
    (log : after.log = acts ++ p.log) (still : ∀ on, .switchedRadio on ∉ acts) :
    after.radio = p.radio := by
  rw [radio, log, List.reverse_append, List.filterMap_append]
  refine (congrArg (p.radio ++ ·) ?_).trans (List.append_nil _)
  refine List.filterMap_eq_nil_iff.mpr fun act member => ?_
  cases act with
  | switchedRadio on => exact absurd (List.mem_reverse.mp member) (still on)
  | wrote | refused | paused => rfl

theorem accept_queue (p : Platform) (frame : List UInt8) :
    ∃ arrived, (p.accept frame).queue = p.queue ++ arrived := by
  unfold accept
  dsimp only
  split
  · exact ⟨_, rfl⟩
  · split
    · exact ⟨_, rfl⟩
    · exact ⟨[], (List.append_nil _).symm⟩

theorem send_queue (p : Platform) (frame : List UInt8) :
    ∃ arrived, (p.send frame).2.queue = p.queue ++ arrived := by
  unfold send
  split
  · exact p.accept_queue frame
  · exact accept_queue _ frame
  · exact ⟨[], (List.append_nil _).symm⟩

end Platform

/-- The client is gone. -/
def PlatformEvent.disconnects : PlatformEvent → Bool
  | .hci raw =>
    match EventPacket.parse raw with
    | .error _ => false
    | .ok packet => packet.code == EventCode.disconnectionComplete
  | .tick | .usb _ | .other => false

theorem Request.acts_still (request : Request) (answer : Except CommandError (List UInt8))
    (on : Bool) : .switchedRadio on ∉ request.acts answer := by
  unfold Request.acts
  split <;> simp

/-- What is in front of the rest. -/
theorem take_of_append {events taken rest : List PlatformEvent} (split : events = taken ++ rest) :
    events.take (events.length - rest.length) = taken := by
  rw [split, List.length_append, Nat.add_sub_cancel]
  exact List.take_left

namespace Requester

variable {σ : Type}

/-- The events that a request takes. -/
def taken (r : Requester) (listener : Listener σ) (request : Request) (p : Platform) (s : σ) :
    List PlatformEvent :=
  match r.issue request p with
  | (.error _, _) => []
  | (.ok r, p) => p.queue.take (p.queue.length - (wait listener request p.queue r s).rest.length)

theorem issue_queue (r : Requester) (request : Request) (p : Platform) :
    ∃ arrived, (r.issue request p).2.queue = p.queue ++ arrived := by
  unfold issue
  split
  · exact ⟨[], (List.append_nil _).symm⟩
  · split
    · exact ⟨[], (List.append_nil _).symm⟩
    · rename_i frame _
      have sent := p.send_queue frame
      split <;> rename_i shape <;> rw [shape] at sent <;> exact sent

/-- A request takes the events at the head of the queue, and has its listener observe each. -/
theorem Reach.ask_taken {r : Requester} {size period : Nat} (reach : Reach size period r)
    (positive : 0 < size) (listener : Listener σ) (request : Request) (p : Platform) (s : σ)
    {kind : PlatformEvent → Bool}
    (other : ∀ opcode handles, kind (.hci (Platform.completion opcode handles)) = false) :
    (∃ arrived, p.queue ++ arrived =
        r.taken listener request p s ++ (r.ask listener request p s).2.2.1.queue) ∧
      (r.ask listener request p s).2.2.2 =
        (r.taken listener request p s).foldl (request.observe listener) s ∧
      (r.taken listener request p s).countP kind +
        (r.ask listener request p s).2.2.1.remaining kind = p.remaining kind := by
  have same := r.issue_remaining request p other
  obtain ⟨arrived, queue⟩ := r.issue_queue request p
  cases issued : r.issue request p with
  | mk result written =>
    rw [issued] at same queue
    cases result with
    | error =>
      simp only [ask, taken, issued]
      exact ⟨⟨arrived, queue.symm⟩, rfl, (Nat.zero_add _).trans same⟩
    | ok sent =>
      have waiting := (reach.resting positive).issue issued
      obtain ⟨answer, taken, rest, after, decided, -, waited⟩ :=
        waiting.decided positive listener written.queue s
      have split : written.queue = taken ++ rest := by
        generalize written.queue = events at decided
        cases decided with
        | first => exact List.append_cons _ _ _
        | drained => exact (List.append_nil _).symm
      simp only [ask, Requester.taken, issued, waited, take_of_append split]
      refine ⟨⟨arrived, queue.symm.trans split⟩, trivial, ?_⟩
      rw [← same]
      simp only [Platform.remaining, Platform.scripted, split, List.countP_append]
      omega

end Requester

namespace Legacy

/-- What can happen while the link is at work. -/
inductive Happening where
  /-- An event has been taken, and may have cost the link its client. -/
  | took (event : PlatformEvent) (severs : Bool)
  | switchedRadio (on : Bool)
  /-- A run of the setup is over. -/
  | setUp
  deriving DecidableEq, Repr

namespace Core

/-- The client is gone, or is given up for want of a message in time. -/
def loses (c : Core) : PlatformEvent → Bool
  | .tick => (c.connectTimeout.tick c.tick).phase == .expired
  | event => event.disconnects

def heard (c : Core) : PlatformEvent → Core
  | .hci raw =>
    match EventPacket.parse raw with
    | .error _ => c
    | .ok packet => c.onPacket packet
  | .tick => c.onTick
  | .usb _ | .other => c

/-- What happens while events are taken one after the other. -/
def hearings (c : Core) : List PlatformEvent → List Happening
  | [] => []
  | event :: rest => .took event (c.loses event) :: (c.heard event).hearings rest

theorem severs_of_disconnects {c : Core} {events : List PlatformEvent} {event : PlatformEvent}
    {severs : Bool} (member : .took event severs ∈ c.hearings events)
    (gone : event.disconnects = true) : severs = true := by
  induction events generalizing c with
  | nil => cases member
  | cons first rest ih =>
    rcases List.mem_cons.mp member with same | later
    · cases same
      cases event with
      | tick => cases gone
      | hci | usb | other => exact gone
    · exact ih later

/-- A request that expects a completion keeps nothing from the core that it does not ignore. -/
theorem observe_eq_heard {request : Request} (expect : request.expect = .commandComplete)
    (c : Core) (event : PlatformEvent) : request.observe listener c event = c.heard event := by
  cases event with
  | tick | usb | other => rfl
  | hci raw =>
    simp only [Request.observe, heard]
    cases parsed : EventPacket.parse raw with
    | error => rw [request.read_of_refused parsed]
    | ok packet =>
      obtain ⟨rfl, read⟩ := request.read_of_parsed parsed
      rw [read, Request.reading]
      by_cases about : request.isReply ⟨raw⟩ = true
      · -- The core ignores what answers the request.
        have ignored : c.onPacket ⟨raw⟩ = c := by
          unfold onPacket
          split
          · rename_i code
            simp [Request.isReply, EventPacket.kind_of_disconnection code] at about
          split
          · rename_i code
            simp [Request.isReply, EventPacket.kind_of_leMeta code, expect] at about
          split
          · rename_i code
            simp [Request.isReply, EventPacket.kind_of_vendor code] at about
          · rfl
        rw [if_pos about]
        refine Eq.trans ?_ ignored.symm
        cases request.judge ⟨raw⟩ <;> rfl
      · rw [if_neg about]
        rfl

/-- At most this many actions are queued, behind those that are. -/
structure Queues (c : Core) (most : Nat) (after : Core) : Prop where
  kept : c.actions <+: after.actions
  few : after.actions.length ≤ c.actions.length + most

theorem Queues.of_same {c after : Core} {most : Nat} (same : after.actions = c.actions) :
    c.Queues most after where
  kept := same.symm ▸ List.prefix_refl _
  few := Nat.le_add_right_of_le (Nat.le_of_eq (congrArg List.length same))

theorem Queues.push {c before : Core} {most : Nat} (queues : c.Queues most before)
    (action : Action) : c.Queues (most + 1) (before.push action) := by
  obtain ⟨kept, few⟩ := queues
  unfold Core.push
  split
  · refine ⟨kept.trans (List.prefix_append _ _), ?_⟩
    exact Nat.le_trans (Nat.le_of_eq List.length_append) (Nat.succ_le_succ few)
  · exact ⟨kept, Nat.le_succ_of_le few⟩

theorem feed_queues (c : Core) (chunk : List UInt8) : c.Queues 1 (c.feed chunk) := by
  unfold feed
  split
  · refine Queues.push (.of_same ?_) _
    rfl
  · exact .of_same rfl
  · exact .of_same rfl
  · split
    · exact .of_same rfl
    · split
      · refine Queues.push (.of_same ?_) _
        rfl
      · exact .of_same rfl

theorem onWritePermit_queues (c : Core) (data : List UInt8) :
    c.Queues 2 (c.onWritePermit data) := by
  unfold onWritePermit
  split
  · dsimp only
    split
    · exact (c.feed_queues _).push _
    · exact Queues.push (.of_same rfl) _
  · exact .of_same rfl

theorem onVendor_queues (c : Core) (packet : EventPacket) : c.Queues 2 (c.onVendor packet) := by
  unfold onVendor
  split
  · unfold onAttributeModified
    split
    · split <;> exact .of_same rfl
    · exact .of_same rfl
  · exact c.onWritePermit_queues _
  · exact .of_same rfl
  · exact .of_same rfl

theorem onLeMeta_queues (c : Core) (params : List UInt8) : c.Queues 0 (c.onLeMeta params) := by
  unfold onLeMeta
  split
  · split <;> exact .of_same rfl
  · exact .of_same rfl

theorem stirs_of_code {raw : List UInt8} {code : UInt8} (known : EventPacket.code ⟨raw⟩ = code)
    (other : code ≠ EventCode.commandComplete) : stirs (.hci raw) = true := by
  refine bne_iff_ne.mpr fun complete => other ?_
  rw [← known, EventPacket.code, complete]
  rfl

/-- The loss of the client empties the queue but for a power cycle. -/
theorem heard_lost {c : Core} {event : PlatformEvent} (loses : c.loses event = true) :
    (c.heard event).actions = [.powerCycle] ∧ stirs event = true := by
  cases event with
  | usb | other => cases loses
  | tick =>
    have late : (c.connectTimeout.tick c.tick).phase = .expired := beq_iff_eq.mp loses
    simp only [heard, onTick, if_pos late]
    exact ⟨rfl, rfl⟩
  | hci raw =>
    simp only [Core.loses, PlatformEvent.disconnects] at loses
    split at loses
    · cases loses
    · rename_i packet parsed
      cases EventPacket.eq_of_parsed parsed
      have code := beq_iff_eq.mp loses
      simp only [heard, parsed, onPacket, if_pos code]
      exact ⟨rfl, stirs_of_code code (by decide)⟩

theorem heard_queues {c : Core} {event : PlatformEvent} (keeps : c.loses event = false) :
    c.Queues (3 * [event].countP stirs) (c.heard event) := by
  cases event with
  | usb | other => exact .of_same rfl
  | tick =>
    have timely : (c.connectTimeout.tick c.tick).phase ≠ .expired := beq_eq_false_iff_ne.mp keeps
    simp only [heard, onTick, if_neg timely]
    exact .of_same rfl
  | hci raw =>
    simp only [loses, PlatformEvent.disconnects] at keeps
    simp only [heard]
    split at keeps
    · exact .of_same rfl
    · rename_i packet parsed
      cases EventPacket.eq_of_parsed parsed
      simp only [onPacket, if_neg (beq_eq_false_iff_ne.mp keeps)]
      split
      · have queues := c.onLeMeta_queues (EventPacket.params ⟨raw⟩)
        exact ⟨queues.kept, Nat.le_add_right_of_le queues.few⟩
      split
      · rename_i code
        have queues := c.onVendor_queues ⟨raw⟩
        rw [List.countP_cons_of_pos (stirs_of_code code (by decide))]
        exact ⟨queues.kept, Nat.le_succ_of_le queues.few⟩
      · exact .of_same rfl

/-- Every loss of the client leaves a power cycle queued, whatever is heard after it. -/
theorem hearings_queued (c : Core) (events : List PlatformEvent) :
    (∀ earlier event later, c.hearings events = earlier ++ .took event true :: later →
        .powerCycle ∈ (events.foldl heard c).actions) ∧
      (.powerCycle ∈ c.actions → .powerCycle ∈ (events.foldl heard c).actions) ∧
      (events.foldl heard c).actions.length ≤ c.actions.length + 3 * events.countP stirs := by
  induction events generalizing c with
  | nil =>
    refine ⟨fun earlier event later none => ?_, id, Nat.le_refl _⟩
    cases earlier <;> cases none
  | cons event rest ih =>
    obtain ⟨lost, kept, few⟩ := ih (c.heard event)
    have once : .powerCycle ∈ [Action.powerCycle] := List.mem_singleton.mpr rfl
    cases loses : c.loses event with
    | true =>
      obtain ⟨only, stirred⟩ := heard_lost loses
      rw [only] at kept few
      rw [List.foldl_cons, List.countP_cons_of_pos stirred]
      refine ⟨fun _ _ _ _ => kept once, fun _ => kept once, Nat.le_trans few ?_⟩
      rw [List.length_singleton]
      omega
    | false =>
      have queues := heard_queues loses
      rw [List.foldl_cons]
      refine ⟨fun earlier next later split => ?_,
        fun queued => kept (queues.kept.subset queued), ?_⟩
      · cases earlier with
        | nil =>
          rw [hearings, loses] at split
          cases split
        | cons first earlier => exact lost earlier next later (List.cons.inj split).2
      · have few' := queues.few
        rw [List.countP_cons] at few' ⊢
        rw [List.countP_nil, Nat.zero_add] at few'
        omega

/-- An event between commands is heard like one within. -/
theorem takeEvent_heard {r : Requester} {size period : Nat}
    (reach : Requester.Reach size period r) (positive : 0 < size) (event : PlatformEvent)
    (c : Core) : (takeEvent event r c).2 = c.heard event := by
  cases event with
  | tick | usb | other => rfl
  | hci raw =>
    refine ((reach.resting positive).deliver_state positive listener raw c).trans ?_
    simp only [heard]
    cases EventPacket.parse raw <;> rfl

/-- The wait for a buffer takes events from the head of the queue. -/
theorem awaitPool_heard {r : Requester} {size period : Nat}
    (reach : Requester.Reach size period r) (positive : 0 < size) (events : List PlatformEvent)
    (c : Core) : ∃ taken, events = taken ++ (awaitPool events r c).2.1 ∧
      (awaitPool events r c).2.2.2 = taken.foldl heard c := by
  induction events generalizing r c with
  | nil =>
    refine ⟨[], ?_⟩
    simp only [awaitPool]
    split
    · exact ⟨rfl, rfl⟩
    · split <;> exact ⟨rfl, rfl⟩
  | cons event rest ih =>
    simp only [awaitPool]
    split
    · exact ⟨[], rfl, rfl⟩
    · split
      · exact ⟨[], rfl, rfl⟩
      · obtain ⟨taken, split, heard⟩ :=
          ih (takeEvent_reach event reach c) (takeEvent event r c).2
        refine ⟨event :: taken, congrArg (event :: ·) split, heard.trans ?_⟩
        rw [takeEvent_heard reach positive]
        rfl

end Core

end Legacy

end CardLink
