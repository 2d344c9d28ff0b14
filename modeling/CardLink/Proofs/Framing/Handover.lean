import CardLink.Proofs.Framing.Completion

namespace CardLink

variable {kind : LinkKind}

/-- The event takes back a message that has not been handed over: a new one begins in either
direction, or the reception is dropped. -/
def Event.Withdraws (event : Event kind) : Prop :=
  match event.operation with
  | .receive chunk =>
    (∃ error, event.outcome = .received (.error error)) ∨
      Chunk.tag? kind chunk = some .init ∨ Chunk.tag? kind chunk = some .abort ∨
      event.stored? = some chunk ∧ Chunk.sequence kind chunk = 0
  | .beginSend _ => event.outcome = .sent (.ok ())
  | .reset => True
  | _ => False

/-- The answers to the requests for a completed message, in order. -/
def handedOver (events : List (Event kind)) : List (Option Nat) :=
  events.filterMap fun event =>
    match event.outcome with
    | .length length => some length
    | _ => none

theorem handedOver_append (events later : List (Event kind)) :
    handedOver (events ++ later) = handedOver events ++ handedOver later :=
  List.filterMap_append ..

/-- Either nobody has asked for a message of this length, or it went to the first who did. -/
def AtMostOnce (total : Nat) (answers : List (Option Nat)) : Prop :=
  answers = [] ∨ ∃ repeats, answers = some total :: List.replicate repeats none

namespace Endpoint

/-- A completed message is kept, and these are the answers to the requests for it so far. -/
structure Keeping (e : Endpoint kind) (total : Nat) (answers : List (Option Nat)) : Prop where
  idle : e.session.expected = 0
  messageLength : e.messageLength = total
  once : AtMostOnce total answers
  ready : e.ready = true ↔ answers = []

theorem Keeping.same {e after : Endpoint kind} {total : Nat} {answers : List (Option Nat)}
    (keeping : e.Keeping total answers)
    (idle : after.session.expected = e.session.expected)
    (messageLength : after.messageLength = e.messageLength) (ready : after.ready = e.ready) :
    after.Keeping total answers where
  idle := idle.trans keeping.idle
  messageLength := messageLength.trans keeping.messageLength
  once := keeping.once
  ready := ready ▸ keeping.ready

theorem Keeping.takeComplete {e : Endpoint kind} {total : Nat} {answers : List (Option Nat)}
    (keeping : e.Keeping total answers) :
    e.takeComplete.2.Keeping total (answers ++ [e.takeComplete.1]) := by
  have messageLength := keeping.messageLength
  have once := keeping.once
  unfold Endpoint.takeComplete
  by_cases ready : e.ready = true
  · obtain rfl := keeping.ready.mp ready
    rw [if_pos ready]
    exact ⟨keeping.idle, messageLength, .inr ⟨0, by rw [messageLength]; rfl⟩, by simp⟩
  · rw [if_neg ready]
    refine ⟨keeping.idle, messageLength, ?_, ?_⟩
    · rcases once with none | ⟨repeats, rfl⟩
      · exact absurd (keeping.ready.mpr none) ready
      · exact .inr ⟨repeats + 1, by rw [List.replicate_succ', List.cons_append]⟩
    · simp [ready]

theorem answer_ready (e : Endpoint kind) (reply : List UInt8) :
    (e.answer reply).2.ready = e.ready := by
  simp only [answer, queueReply]
  split <;> rename_i queued <;> split at queued <;> cases queued <;> rfl

/-- No chunk takes the message back unless it begins another or drops the reception. -/
theorem Keeping.receive {e : Endpoint kind} {total : Nat} {answers : List (Option Nat)}
    (keeping : e.Keeping total answers) {chunk : List UInt8}
    (stays : ¬Event.Withdraws (⟨.receive chunk, .received (e.receive chunk).1⟩ : Event kind)) :
    (e.receive chunk).2.Keeping total answers := by
  have reception := receive_reception e chunk
  simp only [Event.Withdraws, not_or] at stays
  obtain ⟨accepted, noInit, noAbort, noFirst⟩ := stays
  generalize (e.receive chunk).1 = answer at *
  generalize (e.receive chunk).2 = after at *
  cases reception with
  | refused error => exact absurd ⟨error, rfl⟩ accepted
  | unknown | allocated | dropped => exact keeping
  | restarted tagged => exact absurd tagged noInit
  | aborted tagged => exact absurd tagged noAbort
  | answered reply =>
    have same := answer_sameReception e reply
    exact keeping.same same.expected same.messageLength (answer_ready e reply)
  | first tagged free idle opening =>
    -- Nothing is under way, so a chunk that is stored begins another message.
    refine absurd ⟨?_, opening⟩ noFirst
    simp only [store]
    split <;> rfl
  | next tagged free underWay => exact absurd keeping.idle underWay

theorem operate_ready {e : Endpoint kind} {operation : Operation kind}
    (keeps : operation.KeepsReception) (other : operation ≠ .takeComplete)
    (stays : ¬Event.Withdraws ⟨operation, (e.operate operation).1⟩) :
    (e.operate operation).2.ready = e.ready := by
  cases operation with
  | receive | reset | resetReception => exact keeps.elim
  | takeComplete => exact absurd rfl other
  | beginSend length =>
    simp only [Event.Withdraws, operate, beginSend] at stays ⊢
    split
    · rfl
    · rename_i short
      split
      · rfl
      · rename_i lock acquired
        simp [short, acquired] at stays
  | nextChunk data =>
    simp only [operate, nextChunk]
    split
    · split
      · rfl
      · split <;> rfl
    · rfl
  | enterTransmit =>
    simp only [operate, enterTransmit]
    split <;> rfl
  | queueReply reply =>
    simp only [operate, queueReply]
    split <;> rfl
  | takeDeferred =>
    simp only [operate, takeDeferred]
    split <;> rfl
  | leaveTransmit | finishSend | retune => rfl

theorem handedOver_operate (e : Endpoint kind) {operation : Operation kind}
    (other : operation ≠ .takeComplete) :
    handedOver [⟨operation, (e.operate operation).1⟩] = [] := by
  cases operation <;> first | rfl | exact absurd rfl other

theorem Keeping.operate {e : Endpoint kind} {total : Nat} {answers : List (Option Nat)}
    (keeping : e.Keeping total answers) (operation : Operation kind)
    (stays : ¬Event.Withdraws ⟨operation, (e.operate operation).1⟩) :
    (e.operate operation).2.Keeping total
      (answers ++ handedOver [⟨operation, (e.operate operation).1⟩]) := by
  by_cases asked : operation = .takeComplete
  · subst asked
    exact keeping.takeComplete
  rw [handedOver_operate e asked, List.append_nil]
  rcases operation.keepsReception_or with keeps | ⟨chunk, rfl⟩ | rfl | rfl
  · have same := operate_sameReception (e := e) keeps
    exact keeping.same same.expected same.messageLength (operate_ready keeps asked stays)
  · exact keeping.receive stays
  · exact absurd trivial stays
  · exact ⟨rfl, keeping.messageLength, keeping.once, keeping.ready⟩

theorem History.keeping {e after : Endpoint kind} {total : Nat} {later : List (Event kind)}
    (keeping : e.Keeping total []) (history : History e later after)
    (stays : ∀ event ∈ later, ¬event.Withdraws) : after.Keeping total (handedOver later) := by
  induction history with
  | start => exact keeping
  | next history operation ih =>
    rw [handedOver_append]
    have before := ih fun event member => stays event (List.mem_append_left _ member)
    exact before.operate operation (stays _ (List.mem_append_right _ List.mem_cons_self))

/-- After any history, a message is reported as complete only if its chunks arrived in order and
undisturbed, with sequence numbers from zero and on one channel. The message is then the declared
number of bytes of their payloads, and it is handed over at most once. -/
theorem History.complete_reassembles {layout : Layout kind} {events : List (Event kind)}
    {e : Endpoint kind} {chunk : List UInt8} {total : Nat}
    (history : History { layout := layout } events e)
    (answered : (e.receive chunk).1 = .ok (.complete total)) :
    (∃ older since,
      events ++ [⟨.receive chunk, .received (.ok (.complete total))⟩] = older ++ since ∧
      Reassembled since (e.receive chunk).2.message total) ∧
    ∀ later after, History (e.receive chunk).2 later after →
      (∀ event ∈ later, ¬event.Withdraws) → AtMostOnce total (handedOver later) := by
  obtain ⟨bytes, older, since, delivered, recorded, reassembled⟩ :=
    receive_complete history.underWay answered
  refine ⟨⟨older, since, recorded, delivered.message ▸ reassembled⟩, ?_⟩
  intro later after continued stays
  have length := delivered.messageLength.trans reassembled.length
  have keeping : (e.receive chunk).2.Keeping total [] :=
    ⟨delivered.idle, length, .inl rfl, iff_of_true delivered.ready rfl⟩
  exact (continued.keeping keeping stays).once

/-- Two bytes in two reports on one channel, the second of them padded. -/
theorem History.complete_reassembles_reports :
    let first : List UInt8 := [1, 2, 5, 0, 0, 0, 2, 0xAA]
    let last : List UInt8 := [1, 2, 5, 0, 1, 0xBB, 0, 0]
    let waiting := (Endpoint.receive { layout := .usb 8 } first).2
    let after := (waiting.receive last).2
    (waiting.receive last).1 = .ok (.complete 2) ∧
    (∃ older since,
      [(⟨.receive first, .received (.ok .needMore)⟩ : Event .usb),
        ⟨.receive last, .received (.ok (.complete 2))⟩] = older ++ since ∧
      Reassembled since after.message 2) ∧
    ∀ later final, History after later final →
      (∀ event ∈ later, ¬event.Withdraws) → AtMostOnce 2 (handedOver later) := by
  intro first last waiting after
  have history : History { layout := .usb 8 }
      [⟨.receive first, .received (.ok .needMore)⟩] waiting := History.start.next (.receive first)
  have answered : (waiting.receive last).1 = .ok (.complete 2) := rfl
  exact ⟨answered, history.complete_reassembles answered⟩

end Endpoint

end CardLink
