import CardLink.Packet.Pool
import CardLink.Proofs.Packet
import CardLink.Proofs.Since

namespace CardLink.SlotPool

/-- What the owner of a pool has done with a slot. -/
inductive Transfer where
  | took (slot : Option Nat)
  | stored (raw : List UInt8) (slot : Nat)
  | turnedAway (raw : List UInt8) (error : CommandError)
  | queued (queue : Queue) (slot : Nat)
  | refused (queue : Queue) (slot : Nat)
  | dequeued (queue : Queue) (slot : Option Nat)
  | released (slot : Nat)

/-- One operation of the owner, with the slots that it has before and after. Only a slot that it has
is queued; it may return one that it has, one that is free already, or one that the pool does not
have. -/
inductive Step (pool : SlotPool) (held : List Nat) : Transfer → SlotPool → List Nat → Prop
  | takeFree : Step pool held (.took pool.takeFree.1) pool.takeFree.2
      (pool.takeFree.1.toList ++ held)
  | store {raw : List UInt8} {slot : Nat} {after : SlotPool}
      (taken : pool.intake raw = (.ok slot, after)) :
      Step pool held (.stored raw slot) after (slot :: held)
  | turnAway {raw : List UInt8} {error : CommandError} {after : SlotPool}
      (failed : pool.intake raw = (.error error, after)) :
      Step pool held (.turnedAway raw error) after held
  | queue {queue : Queue} {slot : Nat} {after : SlotPool} (owned : slot ∈ held)
      (taken : pool.enqueue queue slot = .ok after) :
      Step pool held (.queued queue slot) after (held.erase slot)
  | refuse {queue : Queue} {slot : Nat} {error : CommandError} (owned : slot ∈ held)
      (failed : pool.enqueue queue slot = .error error) :
      Step pool held (.refused queue slot) pool held
  | dequeue (queue : Queue) : Step pool held (.dequeued queue (pool.dequeue queue).1)
      (pool.dequeue queue).2 ((pool.dequeue queue).1.toList ++ held)
  | release {slot : Nat} (returned : slot ∈ held ∨ slot ∈ pool.free ∨ pool.capacity ≤ slot) :
      Step pool held (.released slot) (pool.release slot) (held.erase slot)

/-- A pool of this size from the start on, with all that its owner has done and the slots that it
has. -/
inductive Custody (size : Nat) : List Transfer → SlotPool → List Nat → Prop
  | start : Custody size [] (ofSize size) []
  | next {past : List Transfer} {pool after : SlotPool} {held owned : List Nat}
      {transfer : Transfer} (custody : Custody size past pool held)
      (step : Step pool held transfer after owned) :
      Custody size (past ++ [transfer]) after owned

/-- The slots of the pool by place: free, the queued reply, queued, or with the owner. -/
def places (pool : SlotPool) (held : List Nat) : List Nat :=
  pool.free ++ pool.reply.toList ++ pool.pending ++ held

/-- Every slot is in one place, and there once. -/
structure Accounted (size : Nat) (pool : SlotPool) (held : List Nat) : Prop where
  capacity : pool.capacity = size
  places : (pool.places held).Perm (List.range size)

variable {size slot : Nat} {pool after : SlotPool} {held owned : List Nat} {raw : List UInt8}
  {packet : EventPacket} {past : List Transfer} {transfer : Transfer}

theorem Accounted.within (accounted : Accounted size pool held)
    (placed : slot ∈ pool.places held) : slot < pool.capacity :=
  accounted.capacity ▸ List.mem_range.mp (accounted.places.mem_iff.mp placed)

theorem Accounted.nodup (accounted : Accounted size pool held) : (pool.places held).Nodup :=
  accounted.places.nodup_iff.mpr List.nodup_range

theorem Accounted.not_free (accounted : Accounted size pool held) (owned : slot ∈ held) :
    slot ∉ pool.free := by
  have distinct := accounted.nodup
  unfold SlotPool.places at distinct
  rw [List.append_assoc, List.append_assoc] at distinct
  exact fun free => (List.nodup_append.mp distinct).2.2 slot free slot
    (List.mem_append_right _ (List.mem_append_right _ owned)) rfl

theorem release_fresh (within : slot < pool.capacity) (taken : slot ∉ pool.free) :
    pool.release slot = { pool with
      slots := pool.slots.set slot .empty, free := pool.free ++ [slot] } :=
  if_neg (not_or.mpr ⟨Nat.not_le.mpr within, taken⟩)

/-- A packet that is refused for its form has been given a slot for the while. -/
theorem intake_cases (pool : SlotPool) (raw : List UInt8) :
    (pool.free = [] ∧ pool.intake raw = (.error .poolExhausted, pool)) ∨
    ∃ slot rest, pool.free = slot :: rest ∧
      ((∃ packet, EventPacket.parse raw = .ok packet ∧ pool.intake raw =
        (.ok slot, { pool with slots := pool.slots.set slot packet, free := rest })) ∨
      (EventPacket.parse raw = .error .malformed ∧ pool.intake raw =
        (.error .malformed, { pool with free := rest }.release slot))) := by
  cases free : pool.free with
  | nil => exact .inl ⟨rfl, by simp only [intake, takeFree, free]⟩
  | cons slot rest =>
    refine .inr ⟨slot, rest, rfl, ?_⟩
    cases parsed : EventPacket.parse raw with
    | ok packet => exact .inl ⟨packet, rfl, by simp only [intake, takeFree, free, parsed]⟩
    | error error =>
      obtain rfl := EventPacket.malformed_of_refused parsed
      exact .inr ⟨rfl, by simp only [intake, takeFree, free, parsed]⟩

theorem Accounted.moved (accounted : Accounted size pool held)
    (capacity : after.capacity = pool.capacity)
    (moved : ∀ slot, (after.places owned).count slot = (pool.places held).count slot) :
    Accounted size after owned where
  capacity := capacity.trans accounted.capacity
  places := (List.perm_iff_count.mpr moved).trans accounted.places

theorem Accounted.takeFree (accounted : Accounted size pool held) :
    Accounted size pool.takeFree.2 (pool.takeFree.1.toList ++ held) := by
  unfold SlotPool.takeFree
  split
  · exact accounted
  · rename_i first rest free
    refine accounted.moved rfl fun slot => ?_
    simp only [SlotPool.places, free, Option.toList_some, List.count_append, List.count_cons,
      List.count_nil]
    omega

theorem Accounted.release (accounted : Accounted size pool held) (owned : slot ∈ held) :
    Accounted size (pool.release slot) (held.erase slot) := by
  have within := accounted.within (List.mem_append_right _ owned)
  rw [release_fresh within (accounted.not_free owned)]
  refine accounted.moved List.length_set fun other => ?_
  have moved := (List.perm_cons_erase owned).count_eq other
  simp only [SlotPool.places, List.count_append, List.count_cons, List.count_nil] at moved ⊢
  omega

/-- A slot that is not in use, or none at all, is not returned a second time. -/
theorem Accounted.release_unused (accounted : Accounted size pool held)
    (unused : slot ∈ pool.free ∨ pool.capacity ≤ slot) :
    pool.release slot = pool ∧ held.erase slot = held := by
  refine ⟨if_pos unused.symm, List.erase_of_not_mem fun owned => ?_⟩
  rcases unused with free | beyond
  · exact accounted.not_free owned free
  · exact Nat.not_le.mpr (accounted.within (List.mem_append_right _ owned)) beyond

theorem Accounted.store (accounted : Accounted size pool held)
    (taken : pool.intake raw = (.ok slot, after)) : Accounted size after (slot :: held) := by
  rcases pool.intake_cases raw with ⟨-, none⟩ | ⟨first, rest, free, ⟨packet, -, stored⟩ | ⟨-, bad⟩⟩
  · rw [none] at taken
    cases taken
  · rw [stored] at taken
    cases taken
    refine accounted.moved List.length_set fun other => ?_
    simp only [SlotPool.places, free, List.count_append, List.count_cons]
    omega
  · rw [bad] at taken
    cases taken

/-- A packet that is not taken in leaves the queues as they are, and the same slots free. -/
theorem Accounted.turnAway (accounted : Accounted size pool held) {error : CommandError}
    (failed : pool.intake raw = (.error error, after)) :
    Accounted size after held ∧ after.reply = pool.reply ∧ after.pending = pool.pending ∧
      after.free.Perm pool.free := by
  rcases pool.intake_cases raw with ⟨-, none⟩ | ⟨first, rest, free, ⟨packet, -, stored⟩ | ⟨-, bad⟩⟩
  · rw [none] at failed
    cases failed
    exact ⟨accounted, rfl, rfl, .refl _⟩
  · rw [stored] at failed
    cases failed
  · rw [bad] at failed
    cases failed
    have lent : Accounted size { pool with free := rest } (first :: held) := by
      have taken := accounted.takeFree
      simp only [SlotPool.takeFree, free] at taken
      exact taken
    have back := lent.release List.mem_cons_self
    rw [List.erase_cons_head] at back
    have within := lent.within (List.mem_append_right _ List.mem_cons_self)
    refine ⟨back, ?_⟩
    rw [release_fresh within (lent.not_free List.mem_cons_self), free]
    exact ⟨rfl, rfl, List.perm_append_singleton first rest⟩

/-- The owner's slot is not in the queue, so the queue has room for it. -/
theorem Accounted.room (accounted : Accounted size pool held) (owned : slot ∈ held) :
    pool.pending.length < pool.capacity := by
  have total := accounted.places.length_eq
  have some := List.length_pos_of_mem owned
  rw [SlotPool.places, List.length_range, ← accounted.capacity] at total
  simp only [List.length_append] at total
  omega

theorem Accounted.queue (accounted : Accounted size pool held) {queue : Queue}
    (owned : slot ∈ held) (taken : pool.enqueue queue slot = .ok after) :
    Accounted size after (held.erase slot) := by
  have moved := (List.perm_cons_erase owned).count_eq
  simp only [List.count_cons] at moved
  cases queue with
  | reply =>
    simp only [enqueue] at taken
    split at taken <;> cases taken
    rename_i vacant
    have vacant : pool.reply = none := Option.not_isSome_iff_eq_none.mp vacant
    refine accounted.moved rfl fun other => ?_
    simp only [SlotPool.places, vacant, Option.toList_some, Option.toList_none, List.count_append,
      List.count_cons, List.count_nil, moved other]
    omega
  | pending =>
    simp only [enqueue] at taken
    split at taken <;> cases taken
    refine accounted.moved rfl fun other => ?_
    simp only [SlotPool.places, List.count_append, List.count_cons, List.count_nil, moved other]
    omega

theorem Accounted.dequeue (accounted : Accounted size pool held) (queue : Queue) :
    Accounted size (pool.dequeue queue).2 ((pool.dequeue queue).1.toList ++ held) := by
  cases queue with
  | reply =>
    refine accounted.moved rfl fun other => ?_
    simp only [SlotPool.places, SlotPool.dequeue, Option.toList_none, List.count_append,
      List.count_nil]
    omega
  | pending =>
    simp only [SlotPool.dequeue]
    split
    · exact accounted
    · rename_i first rest pending
      refine accounted.moved rfl fun other => ?_
      simp only [SlotPool.places, pending, Option.toList_some, List.count_append, List.count_cons,
        List.count_nil]
      omega

theorem accounted_start (size : Nat) : Accounted size (ofSize size) [] where
  capacity := List.length_replicate
  places := by
    simp only [SlotPool.places, ofSize, Option.toList_none, List.append_nil]
    exact .refl _

theorem Accounted.step (accounted : Accounted size pool held)
    (step : Step pool held transfer after owned) : Accounted size after owned := by
  cases step with
  | takeFree => exact accounted.takeFree
  | store taken => exact accounted.store taken
  | turnAway failed => exact (accounted.turnAway failed).1
  | queue owned taken => exact accounted.queue owned taken
  | refuse => exact accounted
  | dequeue queue => exact accounted.dequeue queue
  | release returned =>
    rcases returned with owned | unused
    · exact accounted.release owned
    · obtain ⟨same, kept⟩ := accounted.release_unused unused
      rw [same, kept]
      exact accounted

theorem Custody.accounted (custody : Custody size past pool held) : Accounted size pool held := by
  induction custody with
  | start => exact accounted_start size
  | next _ step ih => exact ih.step step

/-- The slot is in use, with this packet. -/
structure Carries (pool : SlotPool) (slot : Nat) (packet : EventPacket) : Prop where
  taken : slot ∉ pool.free
  packet : pool.packet slot = packet

theorem packet_set {free : List Nat} {other : Nat} (apart : other ≠ slot) :
    SlotPool.packet { pool with slots := pool.slots.set other packet, free := free } slot =
      pool.packet slot := by
  simp only [SlotPool.packet, List.getElem?_set_ne apart]

theorem Carries.release (carries : pool.Carries slot packet) {other : Nat} (apart : other ≠ slot) :
    (pool.release other).Carries slot packet := by
  unfold SlotPool.release
  split
  · exact carries
  · refine ⟨fun free => ?_, (packet_set apart).trans carries.packet⟩
    rcases List.mem_append.mp free with old | new
    · exact carries.taken old
    · exact apart (List.mem_singleton.mp new).symm

theorem Carries.intake (carries : pool.Carries slot packet) (raw : List UInt8) :
    (pool.intake raw).2.Carries slot packet := by
  rcases pool.intake_cases raw with
    ⟨-, result⟩ | ⟨first, rest, free, ⟨stored, -, result⟩ | ⟨-, result⟩⟩ <;> rw [result]
  · exact carries
  · have taken := free ▸ carries.taken
    have apart := (List.ne_of_not_mem_cons taken).symm
    exact ⟨List.not_mem_of_not_mem_cons taken, (packet_set apart).trans carries.packet⟩
  · have taken := free ▸ carries.taken
    have lent : Carries { pool with free := rest } slot packet :=
      ⟨List.not_mem_of_not_mem_cons taken, carries.packet⟩
    exact lent.release (List.ne_of_not_mem_cons taken).symm

theorem Accounted.carries_stored (accounted : Accounted size pool held)
    (taken : pool.intake raw = (.ok slot, after)) :
    ∃ packet, EventPacket.parse raw = .ok packet ∧ after.Carries slot packet := by
  have owned := accounted.store taken
  rcases pool.intake_cases raw with
    ⟨-, result⟩ | ⟨first, rest, free, ⟨packet, parsed, result⟩ | ⟨-, result⟩⟩ <;>
    rw [result] at taken <;> cases taken
  refine ⟨packet, parsed, owned.not_free List.mem_cons_self, ?_⟩
  have unused : slot ∈ pool.free := free ▸ List.mem_cons_self
  have within := accounted.within
    (List.mem_append_left _ (List.mem_append_left _ (List.mem_append_left _ unused)))
  simp only [SlotPool.packet, List.getElem?_set_self within, Option.getD_some]

theorem Carries.enqueue (carries : pool.Carries slot packet) {queue : Queue} {other : Nat}
    (taken : pool.enqueue queue other = .ok after) : after.Carries slot packet := by
  cases queue <;> simp only [SlotPool.enqueue] at taken <;> split at taken <;> cases taken <;>
    exact ⟨carries.taken, carries.packet⟩

theorem Carries.dequeue (carries : pool.Carries slot packet) (queue : Queue) :
    (pool.dequeue queue).2.Carries slot packet := by
  cases queue with
  | reply => exact ⟨carries.taken, carries.packet⟩
  | pending =>
    simp only [SlotPool.dequeue]
    split <;> exact ⟨carries.taken, carries.packet⟩

theorem Carries.takeFree (carries : pool.Carries slot packet) :
    pool.takeFree.2.Carries slot packet := by
  unfold SlotPool.takeFree
  split
  · exact carries
  · rename_i free
    exact ⟨List.not_mem_of_not_mem_cons (free ▸ carries.taken), carries.packet⟩

theorem Carries.step (carries : pool.Carries slot packet)
    (step : Step pool held transfer after owned) (kept : transfer ≠ .released slot) :
    after.Carries slot packet := by
  cases step with
  | takeFree => exact carries.takeFree
  | @store raw _ _ taken =>
    have stays := carries.intake raw
    rwa [taken] at stays
  | @turnAway raw _ _ failed =>
    have stays := carries.intake raw
    rwa [failed] at stays
  | queue _ taken => exact carries.enqueue taken
  | refuse => exact carries
  | dequeue queue => exact carries.dequeue queue
  | release => exact carries.release fun same => kept (congrArg Transfer.released same)

/-- A packet that has been stored stays in its slot until the slot is returned. -/
theorem Custody.carries (custody : Custody size past pool held)
    (stored : Since (· = .stored raw slot) (· = .released slot) past) :
    ∃ packet, EventPacket.parse raw = .ok packet ∧ pool.Carries slot packet := by
  induction custody with
  | start => exact absurd stored not_since_nil
  | next custody step ih =>
    rcases since_append.mp stored with rfl | ⟨before, kept⟩
    · cases step with
      | store taken => exact custody.accounted.carries_stored taken
    · obtain ⟨packet, parsed, carries⟩ := ih before
      exact ⟨packet, parsed, carries.step step kept⟩

/-- The slots that have been queued, in order. -/
def queuedSlots (past : List Transfer) : List Nat :=
  past.filterMap fun transfer =>
    match transfer with
    | .queued .pending slot => some slot
    | _ => none

/-- The slots that have been taken from the queue, in order. -/
def dequeuedSlots (past : List Transfer) : List Nat :=
  past.filterMap fun transfer =>
    match transfer with
    | .dequeued .pending slot => slot
    | _ => none

theorem intake_pending (pool : SlotPool) (raw : List UInt8) :
    (pool.intake raw).2.pending = pool.pending := by
  rcases pool.intake_cases raw with
    ⟨-, result⟩ | ⟨first, rest, free, ⟨stored, -, result⟩ | ⟨-, result⟩⟩ <;> rw [result]
  unfold release
  split <;> rfl

/-- One operation adds a slot at the end of the queue, or takes one from its front, or neither. -/
theorem Step.pending (step : Step pool held transfer after owned) :
    pool.pending ++ queuedSlots [transfer] = dequeuedSlots [transfer] ++ after.pending := by
  cases step with
  | takeFree =>
    unfold SlotPool.takeFree
    split <;> exact List.append_nil _
  | @store raw _ _ taken =>
    have kept := pool.intake_pending raw
    rw [taken] at kept
    exact (List.append_nil _).trans kept.symm
  | @turnAway raw _ _ failed =>
    have kept := pool.intake_pending raw
    rw [failed] at kept
    exact (List.append_nil _).trans kept.symm
  | @queue queue _ _ _ taken =>
    cases queue <;> simp only [enqueue] at taken <;> split at taken <;> cases taken
    · exact List.append_nil _
    · rfl
  | refuse => exact List.append_nil _
  | dequeue queue =>
    cases queue with
    | reply => exact List.append_nil _
    | pending =>
      cases queued : pool.pending <;>
        simp [SlotPool.dequeue, queued, queuedSlots, dequeuedSlots]
  | release =>
    unfold SlotPool.release
    split <;> exact List.append_nil _

theorem Custody.pending (custody : Custody size past pool held) :
    queuedSlots past = dequeuedSlots past ++ pool.pending := by
  induction custody with
  | start => rfl
  | @next past pool after held owned transfer _ step ih =>
    have moved := step.pending
    calc queuedSlots (past ++ [transfer])
      _ = queuedSlots past ++ queuedSlots [transfer] := List.filterMap_append
      _ = dequeuedSlots past ++ (pool.pending ++ queuedSlots [transfer]) := by
        rw [ih, List.append_assoc]
      _ = dequeuedSlots past ++ dequeuedSlots [transfer] ++ after.pending := by
        rw [moved, List.append_assoc]
      _ = dequeuedSlots (past ++ [transfer]) ++ after.pending := by
        rw [dequeuedSlots, dequeuedSlots, dequeuedSlots, List.filterMap_append]

/-- What is taken from a queue is what it has longest, and only that leaves the pool. -/
theorem dequeue_eq (pool : SlotPool) (queue : Queue) :
    pool.dequeue queue =
      match queue with
      | .reply => (pool.reply, { pool with reply := none })
      | .pending => (pool.pending.head?, { pool with pending := pool.pending.tail }) := by
  cases queue with
  | reply => rfl
  | pending =>
    simp only [SlotPool.dequeue]
    split
    · rename_i empty
      simp only [empty, List.head?_nil, List.tail_nil]
      exact congrArg (Prod.mk none) (by rw [← empty])
    · rename_i first rest queued
      simp only [queued, List.head?_cons, List.tail_cons]

/-- Whatever its owner does, every slot of a pool is in one place: free, the queued reply, in the
queue, or with the owner. The queue always takes a slot of the owner, and hands out the oldest
first; the place of the reply takes it only when it is vacant. Each hands out a slot whenever it has
one: the queue the oldest of those it was given and has not handed out, the place of the reply its
only one. A packet that is not taken in leaves both queues and the set of the free slots as they
were. A packet that is taken in is read at its slot until the slot is returned. -/
theorem Custody.conserves (custody : Custody size past pool held) :
    (pool.free ++ pool.reply.toList ++ pool.pending ++ held).Perm (List.range size) ∧
    (∀ slot ∈ held, (∃ after, pool.enqueue .pending slot = .ok after) ∧
      ∀ error, pool.enqueue .reply slot = .error error ↔ error = .busy ∧ pool.reply ≠ none) ∧
    queuedSlots past = dequeuedSlots past ++ pool.pending ∧
    (pool.dequeue .pending).1 = pool.pending.head? ∧
    (pool.dequeue .pending).1 = (queuedSlots past)[(dequeuedSlots past).length]? ∧
    (pool.dequeue .pending).2.pending = pool.pending.tail ∧
    (pool.dequeue .reply).1 = pool.reply ∧
    (pool.dequeue .reply).2.reply = none ∧
    (∀ raw error after, pool.intake raw = (.error error, after) →
      (error = .poolExhausted ∧ pool.free = [] ∨
        error = .malformed ∧ EventPacket.parse raw = .error .malformed) ∧
      after.reply = pool.reply ∧ after.pending = pool.pending ∧ after.free.Perm pool.free) ∧
    ∀ raw slot, Since (· = .stored raw slot) (· = .released slot) past →
      EventPacket.parse raw = .ok (pool.packet slot) := by
  have accounted := custody.accounted
  have first : (pool.dequeue .pending).1 = pool.pending.head? := by rw [dequeue_eq]
  refine ⟨accounted.places, fun slot owned => ⟨?_, fun error => ?_⟩, custody.pending, first, ?_,
    by rw [dequeue_eq], rfl, rfl, ?_, ?_⟩
  · exact ⟨_, if_neg (Nat.not_le.mpr (accounted.room owned))⟩
  · cases vacant : pool.reply <;> simp [enqueue, vacant, eq_comm]
  · rw [first, custody.pending, List.getElem?_append_right (Nat.le_refl _), Nat.sub_self,
      List.head?_eq_getElem?]
  · intro raw error after failed
    refine ⟨?_, (accounted.turnAway failed).2⟩
    rcases pool.intake_cases raw with
      ⟨free, result⟩ | ⟨first, rest, free, ⟨stored, -, result⟩ | ⟨bad, result⟩⟩ <;>
      rw [result] at failed <;> cases failed
    · exact .inl ⟨rfl, free⟩
    · exact .inr ⟨rfl, bad⟩
  · intro raw slot stored
    obtain ⟨packet, parsed, carries⟩ := custody.carries stored
    rw [parsed, carries.packet]

/-- Three slots: two packets are queued, the younger slot first, and a third slot waits as the
reply, which then refuses another. Both queues hand out, a packet finds no room, the reply is queued
again, and one slot is returned twice. What is left in the queue is the slot that was queued last. -/
theorem Custody.conserves_exhausted :
    let resets : List UInt8 := [0x04, 0x0E, 0x04, 0x01, 0x03, 0x0C, 0x00]
    let past : List Transfer := [.stored resets 0, .stored resets 1, .took (some 2),
      .queued .pending 1, .queued .pending 0, .queued .reply 2, .dequeued .pending (some 1),
      .refused .reply 1, .dequeued .reply (some 2), .turnedAway resets .poolExhausted,
      .queued .reply 2, .released 1, .released 1]
    let pool : SlotPool := ⟨[⟨resets⟩, .empty, .empty], [1], some 2, [0]⟩
    Custody 3 past pool [] ∧
    (pool.free ++ pool.reply.toList ++ pool.pending ++ []).Perm (List.range 3) ∧
    queuedSlots past = dequeuedSlots past ++ pool.pending ∧
    (pool.dequeue .pending).1 = some 0 ∧
    (pool.dequeue .reply).1 = some 2 ∧
    EventPacket.parse resets = .ok (pool.packet 0) := by
  intro resets past pool
  have taken : Custody 3 (past.take 3) ⟨[⟨resets⟩, ⟨resets⟩, .empty], [], none, []⟩ [2, 1, 0] :=
    ((Custody.start.next (.store rfl)).next (.store rfl)).next .takeFree
  have queued : Custody 3 (past.take 6) ⟨[⟨resets⟩, ⟨resets⟩, .empty], [], some 2, [1, 0]⟩ [] :=
    ((taken.next (.queue (by decide) rfl)).next (.queue (by decide) rfl)).next
      (.queue (by decide) rfl)
  have custody : Custody 3 past pool [] :=
    ((((((queued.next (.dequeue .pending)).next (.refuse (by decide) rfl)).next
      (.dequeue .reply)).next (.turnAway rfl)).next (.queue (by decide) rfl)).next
      (.release (by decide))).next (.release (by decide))
  obtain ⟨places, -, inOrder, first, -, -, reply, -, -, stored⟩ := custody.conserves
  refine ⟨custody, places, inOrder, first, reply, stored resets 0 ?_⟩
  exact ⟨[], _, _, rfl, rfl, by simp⟩

end CardLink.SlotPool
