import CardLink.Proofs.Framing.Handling
import CardLink.Proofs.Framing.Resuming

namespace CardLink

variable {kind : LinkKind}

/-- All the numbers of a reception are zero. -/
structure Session.Cleared (s : Session) : Prop where
  expected : s.expected = 0
  remaining : s.remaining = 0
  total : s.total = 0
  cursor : s.cursor = 0

/-- A reset, of the endpoint, of its session or of the reception alone. -/
def Handling.Clears : Handling kind → Prop
  | operation .reset | operation .resetReception | resetSession => True
  | _ => False

/-- The chunk is stored, as the last one of a message or not. -/
def Received.Stores : Except ChunkError Received → Prop
  | .ok .needMore | .ok (.complete _) => True
  | _ => False

namespace Endpoint

variable {e after : Endpoint kind} {chunk payload : List UInt8}

/-- What has come and what is still to come are the whole message, and it has room in the buffer.
No more chunks have come than bytes. -/
structure Bounded (e : Endpoint kind) : Prop where
  balance : e.session.cursor + e.session.remaining = e.session.total
  capacity : e.session.total ≤ messageCapacity
  behind : e.session.expected ≤ e.session.cursor
  messageLength : e.messageLength ≤ messageCapacity
  buffer : e.buffer.length = messageCapacity

/-- As an endpoint is found between two chunks: one that expects nothing has nothing to come. -/
structure Balanced (e : Endpoint kind) : Prop extends e.Bounded where
  idle : e.session.remaining = 0 ↔ e.session.expected = 0

theorem balanced_new (layout : Layout kind) : ({ layout := layout } : Endpoint kind).Balanced where
  balance := rfl
  capacity := Nat.zero_le _
  behind := Nat.le_refl _
  messageLength := Nat.zero_le _
  buffer := List.length_replicate
  idle := Iff.rfl

theorem Balanced.same (balanced : e.Balanced) (same : e.SameReception after) : after.Balanced where
  balance := by rw [same.cursor, same.remaining, same.total, balanced.balance]
  capacity := same.total ▸ balanced.capacity
  behind := by rw [same.expected, same.cursor]; exact balanced.behind
  messageLength := same.messageLength ▸ balanced.messageLength
  buffer := same.buffer ▸ balanced.buffer
  idle := by rw [same.remaining, same.expected]; exact balanced.idle

theorem Balanced.cleared (balanced : e.Balanced) (cleared : after.session.Cleared)
    (messageLength : after.messageLength = e.messageLength) (buffer : after.buffer = e.buffer) :
    after.Balanced where
  balance := by rw [cleared.cursor, cleared.remaining, cleared.total]
  capacity := by rw [cleared.total]; exact Nat.zero_le _
  behind := by rw [cleared.expected]; exact Nat.zero_le _
  messageLength := messageLength ▸ balanced.messageLength
  buffer := buffer ▸ balanced.buffer
  idle := iff_of_true cleared.remaining cleared.expected

theorem resetReception_cleared (s : Session) : s.resetReception.Cleared := ⟨rfl, rfl, rfl, rfl⟩

theorem reset_cleared (s : Session) : s.reset.Cleared := ⟨rfl, rfl, rfl, rfl⟩

theorem handle_cleared {handling : Handling kind} (clears : handling.Clears) :
    (e.handle handling).session.Cleared := by
  unfold Handling.Clears at clears
  split at clears
  · exact reset_cleared e.session
  · exact resetReception_cleared e.session
  · exact reset_cleared e.session
  · exact clears.elim

theorem GivenUp.cleared (given : e.GivenUp after) : after.session.Cleared :=
  ⟨given.expected, given.remaining, given.total, given.cursor⟩

theorem Bounded.starting (bounded : e.Bounded) {total : Nat} (fits : total ≤ messageCapacity)
    (channel : UInt16) : (e.starting total channel).Bounded where
  balance := Nat.zero_add _
  capacity := fits
  behind := Nat.le_refl _
  messageLength := bounded.messageLength
  buffer := bounded.buffer

/-- The bytes of a payload that are copied. -/
def copied (e : Endpoint kind) (payload : List UInt8) : Nat :=
  min payload.length e.session.remaining

theorem length_take_copied (e : Endpoint kind) (payload : List UInt8) :
    (payload.take e.session.remaining).length = e.copied payload := by
  rw [List.length_take, Nat.min_comm, copied]

theorem store_session (e : Endpoint kind) (payload : List UInt8) :
    (e.store payload).2.session = e.session.advance (e.copied payload) := by
  rw [← e.length_take_copied payload]
  unfold store
  dsimp only
  split <;> rfl

theorem store_buffer (e : Endpoint kind) (payload : List UInt8) :
    (e.store payload).2.buffer =
      overwrite e.buffer e.session.cursor (payload.take e.session.remaining) := by
  unfold store
  dsimp only
  split <;> rfl

theorem store_messageLength (e : Endpoint kind) (payload : List UInt8) :
    (e.store payload).2.messageLength = e.messageLength ∨
      (e.store payload).2.messageLength = e.session.total := by
  unfold store
  dsimp only
  split
  · exact .inr rfl
  · exact .inl rfl

theorem Bounded.cursor_copied (bounded : e.Bounded) (payload : List UInt8) :
    e.session.cursor + e.copied payload ≤ messageCapacity := by
  have balance := bounded.balance
  have capacity := bounded.capacity
  unfold copied
  omega

/-- A chunk that is not the last moves on to the next sequence number, which is never zero. -/
theorem Bounded.advance_expected (bounded : e.Bounded)
    (more : e.session.remaining - e.copied payload ≠ 0) :
    (e.session.advance (e.copied payload)).expected = e.session.expected + 1 := by
  have small := bounded.cursor_copied payload
  have behind := bounded.behind
  unfold messageCapacity at small
  rw [Session.advance, if_neg more]
  exact Nat.mod_eq_of_lt (by omega)

/-- Storing a payload keeps the balance, as long as each chunk carries a byte of what is to come. -/
theorem Bounded.store (bounded : e.Bounded) (carries : 0 < e.session.remaining → payload ≠ []) :
    (e.store payload).2.Balanced := by
  have balance := bounded.balance
  have capacity := bounded.capacity
  have behind := bounded.behind
  have small := bounded.cursor_copied payload
  have part : e.copied payload ≤ e.session.remaining := Nat.min_le_right ..
  have some : 0 < e.session.remaining → 0 < e.copied payload := fun waiting =>
    Nat.lt_min.mpr ⟨List.length_pos_iff.mpr (carries waiting), waiting⟩
  constructor
  · constructor
    · rw [store_session]
      simp only [Session.advance]
      omega
    · rw [store_session]
      exact capacity
    · rw [store_session]
      by_cases more : e.session.remaining - e.copied payload = 0
      · simp only [Session.advance, more, if_true]
        exact Nat.zero_le _
      · rw [bounded.advance_expected more]
        simp only [Session.advance]
        omega
    · rcases e.store_messageLength payload with same | whole
      · exact same ▸ bounded.messageLength
      · exact whole ▸ capacity
    · rw [store_buffer, overwrite]
      simp only [List.length_append, List.length_take, List.length_drop,
        bounded.buffer]
      omega
  · rw [store_session]
    by_cases more : e.session.remaining - e.copied payload = 0
    · simp only [Session.advance, more, if_true]
    · rw [bounded.advance_expected more]
      exact iff_of_false more (Nat.succ_ne_zero _)

theorem Balanced.receive (balanced : e.Balanced) (chunk : List UInt8) :
    (e.receive chunk).2.Balanced := by
  have restarted : e.restart.Balanced := balanced.cleared (reset_cleared e.session) rfl rfl
  have reception := e.receive_reception chunk
  generalize (e.receive chunk).1 = answer at *
  generalize (e.receive chunk).2 = after at *
  cases reception with
  | refused | aborted => exact restarted
  | unknown | allocated | dropped => exact balanced
  | restarted => exact restarted.same (e.restart.answer_sameReception _)
  | answered reply => exact balanced.same (e.answer_sameReception reply)
  | first tagged free idle opening whole fits carries =>
    exact (balanced.starting fits (channelOf kind chunk)).store carries
  | next tagged free underWay inOrder sameChannel carries =>
    exact balanced.toBounded.store fun _ => carries

theorem Balanced.operate (balanced : e.Balanced) (operation : Operation kind) :
    (e.operate operation).2.Balanced := by
  rcases operation.keepsReception_or with keeps | ⟨chunk, rfl⟩ | rfl | rfl
  · exact balanced.same (operate_sameReception keeps)
  · exact balanced.receive chunk
  · exact balanced.cleared (reset_cleared e.session) rfl rfl
  · exact balanced.cleared (resetReception_cleared e.session) rfl rfl

/-- Nothing that an owner does upsets the balance. -/
theorem Balanced.handle (balanced : e.Balanced) (handling : Handling kind) :
    (e.handle handling).Balanced := by
  cases handling with
  | operation operation => exact balanced.operate operation
  | resetSession => exact balanced.cleared (reset_cleared e.session) rfl rfl
  | cancelSend | setChannel => exact { balanced with }

theorem Trail.balanced {steps : List (Endpoint kind × Handling kind)} (trail : Trail e steps after)
    (balanced : e.Balanced) : after.Balanced := by
  induction trail with
  | nil => exact balanced
  | cons handling _ ih => exact ih (balanced.handle handling)

/-- The bytes to come when the payload of this chunk is copied: a first chunk declares them. -/
def due (e : Endpoint kind) (chunk : List UInt8) : Nat :=
  if e.session.expected = 0 then Chunk.declared kind chunk else e.session.remaining

/-- What a stored chunk does to the numbers of its reception. -/
structure Takes (e : Endpoint kind) (chunk : List UInt8) (after : Endpoint kind) : Prop where
  /-- As much as is to come is taken from the payload, and no more. -/
  balance : after.session.remaining + min (Chunk.payload kind chunk).length (e.due chunk) =
    e.due chunk
  nearer : 0 < e.due chunk → after.session.remaining < e.due chunk
  within : after.session.cursor ≤ messageCapacity
  /-- The sequence number does not wrap. -/
  counted : after.session.expected = if after.session.remaining = 0 then 0
    else e.session.expected + 1

theorem Bounded.store_takes (bounded : e.Bounded) (payload : List UInt8) :
    (e.store payload).2.session.remaining + e.copied payload = e.session.remaining ∧
      (e.store payload).2.session.cursor ≤ messageCapacity ∧
      (e.store payload).2.session.expected =
        if (e.store payload).2.session.remaining = 0 then 0 else e.session.expected + 1 := by
  rw [store_session]
  refine ⟨Nat.sub_add_cancel (Nat.min_le_right ..), bounded.cursor_copied payload, ?_⟩
  by_cases more : e.session.remaining - e.copied payload = 0
  · simp only [Session.advance, more, if_true]
  · rw [bounded.advance_expected more]
    exact (if_neg more).symm

theorem answer_not_stores (e : Endpoint kind) (reply : List UInt8) :
    ¬Received.Stores (.ok (e.answer reply).1) := by
  rcases e.answer_received reply with ⟨_, answer⟩ | answer <;> rw [answer] <;> exact id

theorem Balanced.takes (balanced : e.Balanced) (stores : Received.Stores (e.receive chunk).1) :
    e.Takes chunk (e.receive chunk).2 := by
  have reception := e.receive_reception chunk
  generalize (e.receive chunk).1 = answer at *
  generalize (e.receive chunk).2 = after at *
  cases reception with
  | refused | aborted | unknown | allocated | dropped => exact stores.elim
  | restarted => exact absurd stores (e.restart.answer_not_stores _)
  | answered reply => exact absurd stores (e.answer_not_stores reply)
  | first tagged free idle opening whole fits carries =>
    have opened : e.due chunk = (e.opened chunk).session.remaining := if_pos idle
    have bounded : (e.opened chunk).Bounded := balanced.starting fits (channelOf kind chunk)
    obtain ⟨taken, within, counted⟩ := bounded.store_takes (Chunk.payload kind chunk)
    refine ⟨?_, fun waiting => ?_, within, ?_⟩
    · rw [opened]
      exact taken
    · rw [opened] at waiting ⊢
      have some := List.length_pos_iff.mpr (carries waiting)
      unfold copied at taken
      omega
    · rw [idle]
      exact counted
  | next tagged free underWay inOrder sameChannel carries =>
    have left : e.due chunk = e.session.remaining := if_neg underWay
    obtain ⟨taken, within, counted⟩ := balanced.store_takes (Chunk.payload kind chunk)
    refine ⟨?_, fun waiting => ?_, within, counted⟩
    · rw [left]
      exact taken
    · have some := List.length_pos_iff.mpr carries
      rw [left] at waiting ⊢
      unfold copied at taken
      omega

end Endpoint

end CardLink
