import CardLink.Framing.Endpoint

namespace CardLink

/-- The bytes in front of the position stay, and the new part follows them. -/
theorem take_overwrite {bytes : List UInt8} {position : Nat} (within : position ≤ bytes.length)
    (part : List UInt8) :
    (overwrite bytes position part).take (position + part.length) =
      bytes.take position ++ part := by
  have front : (bytes.take position ++ part).length = position + part.length := by
    simp only [List.length_append, List.length_take]
    omega
  rw [overwrite, ← front]
  exact List.take_left

namespace Endpoint

variable {kind : LinkKind}

theorem store_needMore {e : Endpoint kind} {payload : List UInt8}
    (short : payload.length < e.session.remaining) :
    e.store payload = (.needMore, { e with
      session := e.session.advance payload.length
      buffer := overwrite e.buffer e.session.cursor payload }) := by
  have whole : payload.take e.session.remaining = payload :=
    List.take_of_length_le (Nat.le_of_lt short)
  have left : ¬e.session.remaining - payload.length = 0 := by omega
  simp only [store, whole, Session.advance, left, if_false]

/-- A payload with all that is still to come ends the reception; what it has beyond is left. -/
theorem store_complete {e : Endpoint kind} {payload : List UInt8}
    (enough : e.session.remaining ≤ payload.length) :
    e.store payload = (.complete e.session.total, { e with
      session := e.session.advance e.session.remaining
      buffer := overwrite e.buffer e.session.cursor (payload.take e.session.remaining)
      messageLength := e.session.total
      ready := true }) := by
  have part : (payload.take e.session.remaining).length = e.session.remaining :=
    List.length_take_of_le enough
  simp only [store, part, Session.advance, Nat.sub_self, if_true]

/-- These bytes of the message under reception are in the buffer; the rest is still to come. -/
structure Stored (e : Endpoint kind) (bytes : List UInt8) : Prop where
  cursor : e.session.cursor = bytes.length
  balance : e.session.cursor + e.session.remaining = e.session.total
  buffered : e.buffer.take e.session.cursor = bytes

/-- The message is complete and has not been handed over. -/
structure Delivered (e : Endpoint kind) (data : List UInt8) : Prop where
  message : e.message = data
  messageLength : e.messageLength = data.length
  ready : e.ready = true
  idle : e.session.expected = 0

theorem Stored.buffered_next {e : Endpoint kind} {bytes : List UInt8} (stored : e.Stored bytes)
    (part : List UInt8) :
    (overwrite e.buffer e.session.cursor part).take (e.session.cursor + part.length) =
      bytes ++ part := by
  have lengths := congrArg List.length stored.buffered
  rw [List.length_take, ← stored.cursor] at lengths
  rw [take_overwrite (by omega), stored.buffered]

theorem Stored.more {e : Endpoint kind} {bytes payload : List UInt8} (stored : e.Stored bytes)
    (short : payload.length < e.session.remaining) :
    (e.store payload).1 = .needMore ∧
      (e.store payload).2.session = e.session.advance payload.length ∧
      (e.store payload).2.Stored (bytes ++ payload) := by
  have balance := stored.balance
  rw [store_needMore short]
  refine ⟨rfl, rfl, ?_, ?_, stored.buffered_next payload⟩
  · simp only [Session.advance, stored.cursor, List.length_append]
  · simp only [Session.advance]
    omega

theorem Stored.last {e : Endpoint kind} {bytes payload : List UInt8} (stored : e.Stored bytes)
    (enough : e.session.remaining ≤ payload.length) :
    (e.store payload).1 = .complete e.session.total ∧
      (e.store payload).2.Delivered ((bytes ++ payload).take e.session.total) ∧
      ((bytes ++ payload).take e.session.total).length = e.session.total := by
  have balance := stored.balance
  have cursor := stored.cursor
  have part : (payload.take e.session.remaining).length = e.session.remaining :=
    List.length_take_of_le enough
  have length : ((bytes ++ payload).take e.session.total).length = e.session.total := by
    apply List.length_take_of_le
    rw [List.length_append]
    omega
  have front := stored.buffered_next (payload.take e.session.remaining)
  have rest : e.session.total - bytes.length = e.session.remaining := by omega
  rw [part, balance] at front
  rw [store_complete enough]
  refine ⟨rfl, ⟨?_, length.symm, rfl, ?_⟩, length⟩
  · rw [List.take_append, rest, List.take_of_length_le (by omega : bytes.length ≤ _)]
    exact front
  · simp only [Session.advance, Nat.sub_self, if_true]

end Endpoint

end CardLink
