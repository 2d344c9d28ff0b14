import CardLink.Proofs.Controller.Outstanding
import CardLink.Proofs.Framing.Quiet

namespace CardLink.Controller

/-- What the application is still to be given, and what the host is still to be sent. -/
structure Outlook where
  /-- The length that the application is told when it asks next. -/
  unread : Option Nat
  message : List UInt8
  /-- The message that is sent, and how far it has come. -/
  underway : Option (List UInt8 × SendProgress)
  /-- The chunks of it that are still to be cut off. -/
  remaining : List (List UInt8)
  chunkInFlight : Bool
  transferTimeout : Countdown
  pending : Option PendingNotify
  outbox : List (List UInt8)
  deriving DecidableEq

namespace Core

def outlook (c : Core) : Outlook where
  unread := c.poll.1
  message := c.message
  underway := if c.endpoint.isSending then some (c.txData, c.endpoint.send) else none
  remaining := if c.endpoint.isSending then c.endpoint.pieces c.txData else []
  chunkInFlight := c.chunkInFlight
  transferTimeout := c.transferTimeout
  pending := c.pending
  outbox := c.outbox

/-- Nothing else is in the way of the message, and its length fits the field for it, but not the
buffer. -/
structure Overlong (c : Core) (data : List UInt8) : Prop where
  client : c.connection.isConnected = true
  free : c.endpoint.isSending = false
  long : messageCapacity < data.length
  counted : data.length ≤ 65535

variable {c : Core} {data : List UInt8} {error : SendError}

theorem poll_fst (c : Core) :
    c.poll.1 = if c.endpoint.ready then some c.endpoint.messageLength else none := by
  simp only [poll, Endpoint.takeComplete]
  cases c.endpoint.ready <;> rfl

theorem sendMessage_overlong (excess : c.Overlong data) : c.sendMessage data =
    (.error (.tooLong data.length),
      { c with endpoint := (c.endpoint.begun data.length).finishSend, txData := [] }) := by
  have lock : c.endpoint.session.lock.sending = false := excess.free
  simp only [sendMessage, excess.client, Endpoint.beginSend, Nat.not_lt.mpr excess.counted,
    SendLock.acquire, lock, excess.long, Bool.false_eq_true, if_true, if_false]
  rfl

/-- The lock is taken for an overlong message and given back; for no other one that is refused is
anything done. -/
theorem sendMessage_refused (refused : (c.sendMessage data).1 = .error error) :
    ¬c.Overlong data ∧
        (error = .link .notConnected ∨ error = .busy ∨ error = .tooLong data.length) ∧
        (c.sendMessage data).2 = c ∨
      c.Overlong data ∧ error = .tooLong data.length := by
  by_cases client : c.connection.isConnected = true
  · by_cases counted : data.length ≤ 65535
    · cases sending : c.endpoint.isSending with
      | true =>
        have busy := sendMessage_busy client sending counted
        rw [busy] at refused ⊢
        cases refused
        refine .inl ⟨fun excess => ?_, .inr (.inl rfl), rfl⟩
        exact absurd (sending.symm.trans excess.free) nofun
      | false =>
        by_cases long : messageCapacity < data.length
        · have excess : c.Overlong data := ⟨client, sending, long, counted⟩
          rw [sendMessage_overlong excess] at refused
          cases refused
          exact .inr ⟨excess, rfl⟩
        · have accepted := sendMessage_accepted client sending (Nat.not_lt.mp long)
          cases accepted.symm.trans refused
    · have far : c.sendMessage data = (.error (.tooLong data.length), c) := by
        simp only [sendMessage, client, Endpoint.beginSend, Nat.not_le.mp counted, if_true]
      rw [far] at refused ⊢
      cases refused
      exact .inl ⟨fun excess => counted excess.counted, .inr (.inr rfl), rfl⟩
  · have alone : c.sendMessage data = (.error (.link .notConnected), c) := by
      simp only [sendMessage, client, Bool.false_eq_true, if_false]
    rw [alone] at refused ⊢
    cases refused
    exact .inl ⟨fun excess => client excess.client, .inl rfl, rfl⟩

/-- Of what is to come, an overlong message takes away the message that is unread. -/
theorem outlook_overlong (excess : c.Overlong data) :
    (c.sendMessage data).2.outlook = { c.outlook with unread := none } := by
  have free : (c.endpoint.begun data.length).finishSend.isSending = false := rfl
  rw [sendMessage_overlong excess]
  simp only [outlook, free, excess.free, Bool.false_eq_true, if_false]
  rfl

/-- A message that is refused changes nothing that is to come, unless it is an overlong one and a
received message is unread: the application is never told of that one then. -/
theorem refusal_keeps_iff (refused : (c.sendMessage data).1 = .error error) :
    (error = .link .notConnected ∨ error = .busy ∨ error = .tooLong data.length) ∧
      { (c.sendMessage data).2.outlook with unread := c.outlook.unread } = c.outlook ∧
      ((c.sendMessage data).2.outlook = c.outlook ↔
        ¬(c.endpoint.ready = true ∧ c.Overlong data)) := by
  rcases sendMessage_refused refused with ⟨short, cause, same⟩ | ⟨excess, cause⟩
  · rw [same]
    exact ⟨cause, rfl, iff_of_true rfl fun both => short both.2⟩
  · rw [outlook_overlong excess]
    refine ⟨.inr (.inr cause), rfl, ?_⟩
    have unread : c.outlook.unread = none ↔ ¬c.endpoint.ready = true := by
      show c.poll.1 = none ↔ _
      rw [poll_fst]
      simp
    constructor
    · intro same both
      exact unread.mp (congrArg Outlook.unread same).symm both.1
    · intro kept
      rw [← unread.mpr fun ready => kept ⟨ready, excess⟩]

/-- A second message comes while the first of three chunks is in flight. -/
theorem refusal_keeps_iff_busy :
    let initial := Core.create .standard (.stepping 0 1) "card" [1, 2, 3, 4, 5, 6] true
    let c := (Input.session.foldl Core.step initial).step (.sendMessage (List.replicate 40 0x2A))
    let data := [0x90, 0x00]
    (c.sendMessage data).1 = .error .busy ∧ c.outlook.remaining.length = 2 ∧
      c.chunkInFlight = true ∧ ¬(c.endpoint.ready = true ∧ c.Overlong data) ∧
      (c.sendMessage data).2.outlook = c.outlook := by
  intro initial c data
  have busy : c.sendMessage data = (.error .busy, c) :=
    sendMessage_busy (by decide +kernel) (by decide +kernel) (by decide)
  have refused : (c.sendMessage data).1 = .error .busy := congrArg Prod.fst busy
  have kept : ¬(c.endpoint.ready = true ∧ c.Overlong data) :=
    fun both => absurd both.2.long (by decide)
  exact ⟨refused, by decide +kernel, by decide +kernel, kept,
    (refusal_keeps_iff refused).2.2.mpr kept⟩

/-- The host has sent a message of one byte, and before the application asks for it an answer of
261 bytes is refused: the application is not told of the message any more. -/
theorem unread_lost :
    let initial := Core.create .standard (.stepping 0 1) "card" [1, 2, 3, 4, 5, 6] true
    let inputs := Input.session ++ [.modified 0x71 [0x05, 0x00, 0x00, 0x00, 0x01, 0xAA]]
    let c := inputs.foldl Core.step initial
    let data := List.replicate 261 0xA5
    (∃ past, Run initial past c) ∧ (c.sendMessage data).1 = .error (.tooLong 261) ∧
      c.outlook.unread = some 1 ∧ (c.sendMessage data).2.outlook.unread = none := by
  intro initial inputs c data
  have length : data.length = 261 := List.length_replicate
  have excess : c.Overlong data :=
    ⟨by decide +kernel, by decide +kernel, length ▸ by decide, length ▸ by decide⟩
  have refused : (c.sendMessage data).1 = .error (.tooLong 261) := by
    rw [sendMessage_overlong excess, length]
  exact ⟨Run.script initial inputs, refused, by decide +kernel, by decide +kernel⟩

end Core

end CardLink.Controller
