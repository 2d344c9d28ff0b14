import CardLink.Proofs.Requester.Decision
import CardLink.Proofs.Requester.Slots

namespace CardLink.Requester

variable {σ : Type}

/-- Between two events: every slot is free, and this much time has been counted. -/
structure Settled (r : Requester) (size period elapsed : Nat) : Prop where
  rest : r.pool.AtRest
  capacity : r.pool.capacity = size
  tick : r.tick = period
  time : r.clock.elapsed = elapsed

/-- Between two events of a request with this limit, which is still open. -/
structure Waiting (r : Requester) (size period limit elapsed : Nat) : Prop extends
    r.Settled size period elapsed where
  limit : r.clock.limit = limit
  armed : r.clock.phase = .armed

/-- A packet about the request is judged at once, and its slot is free again. -/
theorem route_reply {r : Requester} {slot : Nat} (lent : r.pool.Lent slot)
    (listener : Listener σ) {request : Request} (s : σ)
    (about : request.isReply (r.pool.packet slot) = true) :
    ∃ busy, r.route listener request slot s = (request.judge (r.pool.packet slot),
      { r with pool := r.pool.release slot, busy := busy }, s) := by
  simp only [route, about, if_true, lent.enqueue_reply, drain, lent.noPending, drainList,
    SlotPool.dequeue]
  rw [lent.bare]
  exact ⟨_, rfl⟩

theorem drain_lent {pool : SlotPool} {slot : Nat} (lent : pool.Lent slot)
    (listener : Listener σ) (s : σ) :
    drain listener { pool with pending := [slot] } s =
      (pool.release slot, listener.packet (pool.packet slot) s) := by
  simp only [drain, drainList, lent.noReply]
  rw [lent.bare]
  rfl

/-- Any other packet reaches the listener at once, and its slot is free again. -/
theorem route_other {r : Requester} {slot : Nat} (lent : r.pool.Lent slot)
    (listener : Listener σ) {request : Request} (s : σ)
    (unrelated : request.isReply (r.pool.packet slot) = false) :
    r.route listener request slot s = (.keepWaiting,
      { r with pool := r.pool.release slot }, listener.packet (r.pool.packet slot) s) := by
  have empty := lent.release.1.noReply
  have noReply : (r.pool.release slot).dequeue .reply = (none, r.pool.release slot) := by
    simp only [SlotPool.dequeue, empty]
    rw [← empty]
  simp only [route, unrelated, Bool.false_eq_true, if_false, lent.enqueue_pending,
    drain_lent lent listener s, noReply]

theorem Waiting.packet {r : Requester} {size period limit elapsed : Nat}
    (waiting : r.Waiting size period limit elapsed) (positive : 0 < size)
    (listener : Listener σ) (request : Request) (raw : List UInt8) (s : σ) :
    ∃ after : Requester, after.Waiting size period limit elapsed ∧
      ∀ later, wait listener request (.hci raw :: later) r s =
        match request.read raw with
        | .decided answer => ⟨answer, later, after, s⟩
        | .unsolicited => wait listener request later after (listener.packet ⟨raw⟩ s)
        | .malformed | .undecided => wait listener request later after s := by
  have some : 0 < r.pool.capacity := waiting.capacity ▸ positive
  cases parsed : EventPacket.parse raw with
  | error error =>
    obtain ⟨pool, intake, rest, capacity⟩ := waiting.rest.intake_refused some parsed
    refine ⟨{ r with pool := pool }, { waiting with
      rest := rest
      capacity := capacity.trans waiting.capacity }, fun later => ?_⟩
    simp only [wait, intake, request.read_of_refused parsed]
  | ok packet =>
    obtain ⟨slot, pool, intake, lent, stored, capacity⟩ :=
      waiting.rest.intake_taken some parsed
    obtain ⟨rfl, read⟩ := request.read_of_parsed parsed
    obtain ⟨rest, same⟩ := lent.release
    have settled (busy : Bool) : Waiting { r with pool := pool.release slot, busy := busy }
        size period limit elapsed := { waiting with
      rest := rest
      capacity := same.trans (capacity.trans waiting.capacity) }
    cases about : request.isReply ⟨raw⟩ with
    | true =>
      obtain ⟨busy, routed⟩ := route_reply (r := { r with pool := pool }) lent listener s
        (stored.symm ▸ about)
      refine ⟨_, settled busy, fun later => ?_⟩
      simp only [wait, intake, routed, stored, read, Request.reading, about, if_true]
      cases request.judge ⟨raw⟩ <;> rfl
    | false =>
      have routed := route_other (r := { r with pool := pool }) lent listener s
        (stored.symm ▸ about)
      refine ⟨_, settled r.busy, fun later => ?_⟩
      simp only [wait, intake, routed, stored, read, Request.reading, about]
      rfl

end CardLink.Requester
