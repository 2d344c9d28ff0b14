import CardLink.Proofs.Framing.Cutting

namespace CardLink

inductive Operation (kind : LinkKind) where
  | receive (chunk : List UInt8)
  | beginSend (length : Nat)
  | nextChunk (data : List UInt8)
  | enterTransmit
  | leaveTransmit
  | finishSend
  | takeComplete
  | queueReply (reply : List UInt8)
  | takeDeferred
  | reset
  | resetReception
  | retune (change : LengthChange kind)

/-- The operation neither takes in a chunk nor drops the reception. -/
def Operation.KeepsReception {kind : LinkKind} : Operation kind → Prop
  | receive _ | reset | resetReception => False
  | _ => True

theorem Operation.keepsReception_or {kind : LinkKind} (operation : Operation kind) :
    operation.KeepsReception ∨ (∃ chunk, operation = .receive chunk) ∨ operation = .reset ∨
      operation = .resetReception := by
  cases operation <;> simp [KeepsReception]

/-- What an operation answers. -/
inductive Outcome where
  | received (answer : Except ChunkError Received)
  | sent (result : Except SendError Unit)
  | chunk (chunk : Option (List UInt8))
  | length (length : Option Nat)
  | done

structure Event (kind : LinkKind) where
  operation : Operation kind
  outcome : Outcome

namespace Endpoint

variable {kind : LinkKind}

def operate (e : Endpoint kind) : Operation kind → Outcome × Endpoint kind
  | .receive chunk => (.received (e.receive chunk).1, (e.receive chunk).2)
  | .beginSend length => (.sent (e.beginSend length).1, (e.beginSend length).2)
  | .nextChunk data => (.chunk (e.nextChunk data).1, (e.nextChunk data).2)
  | .enterTransmit => (.sent e.enterTransmit.1, e.enterTransmit.2)
  | .leaveTransmit => (.done, e.leaveTransmit)
  | .finishSend => (.done, e.finishSend)
  | .takeComplete => (.length e.takeComplete.1, e.takeComplete.2)
  | .queueReply reply => (.chunk (e.queueReply reply).1, (e.queueReply reply).2)
  | .takeDeferred => (.chunk e.takeDeferred.1, e.takeDeferred.2)
  | .reset => (.done, e.reset)
  | .resetReception => (.done, { e with session := e.session.resetReception })
  | .retune change => (.done, e.retune [change])

/-- The endpoint after some operations in any order, with the record of their outcomes. Every
operation is possible at any time. -/
inductive History (initial : Endpoint kind) : List (Event kind) → Endpoint kind → Prop
  | start : History initial [] initial
  | next {events : List (Event kind)} {e : Endpoint kind} (history : History initial events e)
      (operation : Operation kind) :
      History initial (events ++ [⟨operation, (e.operate operation).1⟩]) (e.operate operation).2

/-- Both endpoints are at the same point of the same reception. -/
structure SameReception (e after : Endpoint kind) : Prop where
  expected : after.session.expected = e.session.expected
  remaining : after.session.remaining = e.session.remaining
  total : after.session.total = e.session.total
  cursor : after.session.cursor = e.session.cursor
  channel : after.session.channel = e.session.channel
  buffer : after.buffer = e.buffer
  messageLength : after.messageLength = e.messageLength

theorem SameReception.refl (e : Endpoint kind) : SameReception e e :=
  ⟨rfl, rfl, rfl, rfl, rfl, rfl, rfl⟩

theorem queueReply_sameReception (e : Endpoint kind) (reply : List UInt8) :
    SameReception e (e.queueReply reply).2 := by
  unfold queueReply
  split <;> exact ⟨rfl, rfl, rfl, rfl, rfl, rfl, rfl⟩

theorem answer_sameReception (e : Endpoint kind) (reply : List UInt8) :
    SameReception e (e.answer reply).2 := by
  have same := queueReply_sameReception e reply
  unfold answer
  split <;> rename_i queued <;> rw [queued] at same <;> exact same

/-- Only a chunk or a reset moves the reception. -/
theorem operate_sameReception {e : Endpoint kind} {operation : Operation kind}
    (keeps : operation.KeepsReception) : SameReception e (e.operate operation).2 := by
  cases operation with
  | receive | reset | resetReception => exact keeps.elim
  | beginSend length =>
    simp only [operate, beginSend]
    split
    · exact .refl e
    · split <;> exact ⟨rfl, rfl, rfl, rfl, rfl, rfl, rfl⟩
  | nextChunk data =>
    simp only [operate, nextChunk]
    split
    · split
      · exact ⟨rfl, rfl, rfl, rfl, rfl, rfl, rfl⟩
      · split <;> exact ⟨rfl, rfl, rfl, rfl, rfl, rfl, rfl⟩
    · exact .refl e
  | enterTransmit =>
    simp only [operate, enterTransmit]
    split <;> exact ⟨rfl, rfl, rfl, rfl, rfl, rfl, rfl⟩
  | leaveTransmit | finishSend | retune => exact ⟨rfl, rfl, rfl, rfl, rfl, rfl, rfl⟩
  | takeComplete =>
    simp only [operate, takeComplete]
    split <;> exact ⟨rfl, rfl, rfl, rfl, rfl, rfl, rfl⟩
  | queueReply reply => exact queueReply_sameReception e reply
  | takeDeferred =>
    simp only [operate, takeDeferred]
    split <;> exact ⟨rfl, rfl, rfl, rfl, rfl, rfl, rfl⟩

end Endpoint

end CardLink
