import CardLink.Packet.Pool

namespace CardLink.SlotPool

/-- Every slot is free. -/
structure AtRest (pool : SlotPool) : Prop where
  free : pool.free.Perm (List.range pool.capacity)
  noReply : pool.reply = none
  noPending : pool.pending = []

/-- The caller has one slot; every other slot is free. -/
structure Lent (pool : SlotPool) (slot : Nat) : Prop where
  others : (slot :: pool.free).Perm (List.range pool.capacity)
  noReply : pool.reply = none
  noPending : pool.pending = []

theorem atRest_ofSize (size : Nat) : (ofSize size).AtRest where
  free := by
    have capacity : (ofSize size).capacity = size := List.length_replicate
    rw [capacity]
    exact .refl _
  noReply := rfl
  noPending := rfl

theorem Lent.within {pool : SlotPool} {slot : Nat} (lent : pool.Lent slot) :
    slot < pool.capacity :=
  List.mem_range.mp (lent.others.mem_iff.mp List.mem_cons_self)

theorem Lent.bare {pool : SlotPool} {slot : Nat} (lent : pool.Lent slot) :
    { slots := pool.slots, free := pool.free } = pool := by
  rw [← lent.noReply, ← lent.noPending]

theorem Lent.enqueue_reply {pool : SlotPool} {slot : Nat} (lent : pool.Lent slot) :
    pool.enqueue .reply slot = .ok { pool with reply := some slot } := by
  simp only [enqueue, lent.noReply]
  rfl

theorem Lent.enqueue_pending {pool : SlotPool} {slot : Nat} (lent : pool.Lent slot) :
    pool.enqueue .pending slot = .ok { pool with pending := [slot] } := by
  have room : ¬pool.capacity ≤ 0 := Nat.not_le.mpr (Nat.zero_lt_of_lt lent.within)
  simp only [enqueue, lent.noPending, List.length_nil, room, if_false, List.nil_append]

theorem Lent.release {pool : SlotPool} {slot : Nat} (lent : pool.Lent slot) :
    (pool.release slot).AtRest ∧ (pool.release slot).capacity = pool.capacity := by
  have distinct : (slot :: pool.free).Nodup := lent.others.nodup_iff.mpr List.nodup_range
  have within : ¬pool.capacity ≤ slot := Nat.not_le.mpr lent.within
  have taken : slot ∉ pool.free := (List.nodup_cons.mp distinct).1
  have released : pool.release slot = { pool with
      slots := pool.slots.set slot .empty
      free := pool.free ++ [slot] } := if_neg (not_or.mpr ⟨within, taken⟩)
  have capacity : (pool.slots.set slot .empty).length = pool.capacity := List.length_set
  rw [released]
  refine ⟨⟨?_, lent.noReply, lent.noPending⟩, capacity⟩
  rw [SlotPool.capacity, capacity]
  exact (List.perm_append_singleton slot pool.free).trans lent.others

/-- A pool at rest with any slot at all has one to give away. -/
theorem AtRest.takeFree {pool : SlotPool} (rest : pool.AtRest) (positive : 0 < pool.capacity) :
    ∃ slot after, pool.takeFree = (some slot, after) ∧ after.Lent slot ∧
      after.capacity = pool.capacity := by
  have length := rest.free.length_eq
  rw [List.length_range] at length
  match shape : pool.free with
  | [] =>
    rw [shape] at length
    exact absurd length.symm (Nat.ne_of_gt positive)
  | slot :: others =>
    refine ⟨slot, { pool with free := others }, ?_, ⟨?_, rest.noReply, rest.noPending⟩, rfl⟩
    · simp only [SlotPool.takeFree, shape]
    · exact shape ▸ rest.free

theorem AtRest.intake_refused {pool : SlotPool} (rest : pool.AtRest)
    (positive : 0 < pool.capacity) {raw : List UInt8} {error : CommandError}
    (refused : EventPacket.parse raw = .error error) :
    ∃ after, pool.intake raw = (.error error, after) ∧ after.AtRest ∧
      after.capacity = pool.capacity := by
  obtain ⟨slot, taken, take, lent, capacity⟩ := rest.takeFree positive
  obtain ⟨back, same⟩ := lent.release
  refine ⟨taken.release slot, ?_, back, same.trans capacity⟩
  simp only [intake, take, refused]

theorem AtRest.intake_taken {pool : SlotPool} (rest : pool.AtRest)
    (positive : 0 < pool.capacity) {raw : List UInt8} {packet : EventPacket}
    (parsed : EventPacket.parse raw = .ok packet) :
    ∃ slot after, pool.intake raw = (.ok slot, after) ∧ after.Lent slot ∧
      after.packet slot = packet ∧ after.capacity = pool.capacity := by
  obtain ⟨slot, taken, take, lent, capacity⟩ := rest.takeFree positive
  have size : (taken.slots.set slot packet).length = taken.capacity := List.length_set
  have within : slot < taken.slots.length := lent.within
  refine ⟨slot, { taken with slots := taken.slots.set slot packet }, ?_,
    ⟨?_, lent.noReply, lent.noPending⟩, ?_, size.trans capacity⟩
  · simp only [intake, take, parsed]
  · rw [SlotPool.capacity, size]
    exact lent.others
  · simp only [SlotPool.packet, List.getElem?_set_self within, Option.getD_some]

end CardLink.SlotPool
