import CardLink.Proofs.Framing.Cutting
import CardLink.Proofs.Framing.Reception

namespace CardLink

/-- Every chunk takes a byte, but that of an empty message, so that the sequence number never
wraps. -/
structure SendProgress.Counted (p : SendProgress) : Prop where
  within : p.offset ≤ messageCapacity
  sequence : p.sequence ≤ p.offset + 1
  active : p.active = true → p.sequence ≤ p.offset

namespace Endpoint

variable {kind : LinkKind}

/-- The same chunks are still to be cut off; the send may have been cancelled, not begun. -/
structure KeepsSend (e after : Endpoint kind) : Prop where
  layout : after.layout = e.layout
  send : after.send = e.send
  depth : after.session.lock.depth = e.session.lock.depth
  unbegun : after.isSending = true → e.isSending = true

theorem KeepsSend.refl (e : Endpoint kind) : e.KeepsSend e := ⟨rfl, rfl, rfl, id⟩

theorem KeepsSend.trans {a b c : Endpoint kind} (first : a.KeepsSend b) (second : b.KeepsSend c) :
    a.KeepsSend c where
  layout := second.layout.trans first.layout
  send := second.send.trans first.send
  depth := second.depth.trans first.depth
  unbegun sending := first.unbegun (second.unbegun sending)

theorem restart_keepsSend (e : Endpoint kind) : e.KeepsSend e.restart := ⟨rfl, rfl, rfl, nofun⟩

theorem reset_keepsSend (e : Endpoint kind) : e.KeepsSend e.reset := ⟨rfl, rfl, rfl, nofun⟩

theorem queueReply_keepsSend (e : Endpoint kind) (reply : List UInt8) :
    e.KeepsSend (e.queueReply reply).2 := by
  unfold queueReply
  split <;> exact ⟨rfl, rfl, rfl, id⟩

theorem answer_endpoint (e : Endpoint kind) (reply : List UInt8) :
    (e.answer reply).2 = (e.queueReply reply).2 := by
  unfold answer
  split <;> rename_i queued <;> rw [queued]

theorem store_keepsSend (e : Endpoint kind) (payload : List UInt8) :
    e.KeepsSend (e.store payload).2 := by
  simp only [store]
  split <;> exact ⟨rfl, rfl, rfl, id⟩

theorem takeDeferred_keepsSend (e : Endpoint kind) : e.KeepsSend e.takeDeferred.2 := by
  unfold takeDeferred
  split <;> exact ⟨rfl, rfl, rfl, id⟩

/-- No chunk of the host begins a send or touches what is left of one. -/
theorem receive_keepsSend (e : Endpoint kind) (chunk : List UInt8) :
    e.KeepsSend (e.receive chunk).2 := by
  have reception := receive_reception e chunk
  generalize (e.receive chunk).1 = answer at reception
  generalize (e.receive chunk).2 = after at *
  cases reception with
  | refused | aborted => exact restart_keepsSend e
  | unknown | allocated | dropped => exact .refl e
  | restarted =>
    rw [answer_endpoint]
    exact (restart_keepsSend e).trans (queueReply_keepsSend _ _)
  | answered reply =>
    rw [answer_endpoint]
    exact queueReply_keepsSend e reply
  | first =>
    have opened : e.KeepsSend (e.opened chunk) := ⟨rfl, rfl, rfl, id⟩
    exact opened.trans (store_keepsSend _ _)
  | next => exact store_keepsSend e _

@[simp]
theorem nextChunk_layout (e : Endpoint kind) (data : List UInt8) :
    (e.nextChunk data).2.layout = e.layout := by
  simp only [nextChunk]
  split
  · split
    · rfl
    · split <;> rfl
  · rfl

theorem nextChunk_held (e : Endpoint kind) (data : List UInt8) :
    (e.nextChunk data).2.held = e.held := by
  simp only [nextChunk]
  split
  · split
    · rfl
    · split <;> rfl
  · rfl

theorem nextChunk_session (e : Endpoint kind) (data : List UInt8) :
    (e.nextChunk data).2.session = e.session := by
  simp only [nextChunk]
  split
  · split
    · rfl
    · split <;> rfl
  · rfl

theorem nextChunk_isSending (e : Endpoint kind) (data : List UInt8) :
    (e.nextChunk data).2.isSending = e.isSending := by
  rw [isSending, nextChunk_session, isSending]

/-- The same chunks are to be cut off, on the same channel. -/
structure CutsAlike (a b : Endpoint kind) : Prop where
  layout : a.layout = b.layout
  send : a.send = b.send
  channel : a.session.channel = b.session.channel

theorem CutsAlike.refl (e : Endpoint kind) : e.CutsAlike e := ⟨rfl, rfl, rfl⟩

theorem CutsAlike.nextChunk {a b : Endpoint kind} (alike : a.CutsAlike b) (data : List UInt8) :
    (a.nextChunk data).1 = (b.nextChunk data).1 ∧
      (a.nextChunk data).2.CutsAlike (b.nextChunk data).2 := by
  obtain ⟨layout, send, channel⟩ := alike
  have header : a.messageHeader = b.messageHeader := by
    rw [messageHeader_eq, messageHeader_eq, channel, send]
  have length : a.chunkLength = b.chunkLength := congrArg Layout.chunkLength layout
  have pad (chunk : List UInt8) : a.pad chunk = b.pad chunk := by
    simp only [Endpoint.pad, length]
  simp only [Endpoint.nextChunk, ← header, ← length, ← send, ← pad]
  split
  · split
    · exact ⟨rfl, layout, rfl, channel⟩
    · split
      · exact ⟨rfl, layout, send, channel⟩
      · exact ⟨rfl, layout, rfl, channel⟩
  · exact ⟨rfl, layout, send, channel⟩

/-- The endpoint once it has taken the send lock for a message of this length. -/
def begun (e : Endpoint kind) (length : Nat) : Endpoint kind :=
  { e with
    session := { e.session with lock := { e.session.lock with sending := true } }
    send := .start length
    ready := false }

/-- A send is begun or changes nothing. -/
theorem beginSend_cases (e : Endpoint kind) (length : Nat) :
    (∃ error, e.beginSend length = (.error error, e)) ∨
      e.isSending = false ∧ e.beginSend length = (.ok (), e.begun length) := by
  by_cases long : 65535 < length
  · exact .inl ⟨.tooLong length, if_pos long⟩
  · by_cases sending : e.session.lock.sending = true
    · exact .inl ⟨.busy, by simp [beginSend, long, SendLock.acquire, sending]⟩
    · refine .inr ⟨Bool.eq_false_iff.mpr sending, ?_⟩
      simp [beginSend, long, SendLock.acquire, sending, begun]

/-- Ending a send forgets how far it came. -/
theorem nextChunk_finishSend {e after : Endpoint kind} {data : List UInt8}
    (last : e.nextChunk data = (none, after)) : after.finishSend = e.finishSend := by
  unfold nextChunk at last
  split at last
  · dsimp only at last
    split at last
    · cases last
      rfl
    · split at last <;> cases last
      rfl
  · cases last
    rfl

theorem nextChunk_counted {e : Endpoint kind} {data : List UInt8} (counted : e.send.Counted)
    (short : data.length ≤ messageCapacity) : (e.nextChunk data).2.send.Counted := by
  obtain ⟨within, sequence, active⟩ := counted
  unfold nextChunk
  split
  · rename_i going
    have behind := active going
    dsimp only
    split
    · exact ⟨within, sequence, nofun⟩
    · split
      · exact ⟨within, sequence, active⟩
      · rename_i progress inside
        rw [Nat.not_lt] at inside
        have next : nextSequence e.send.sequence = e.send.sequence + 1 := by
          unfold nextSequence messageCapacity at *
          omega
        refine ⟨Nat.le_trans inside short, ?_, fun more => ?_⟩
        · simp only [next]
          omega
        · simp only [next]
          have more := of_decide_eq_true more
          omega
  · exact ⟨within, sequence, active⟩

/-- On an unpadded link a chunk that is cut off carries the tag of a message and the sequence
number that was due. -/
theorem nextChunk_fields {e after : Endpoint kind} {data chunk : List UInt8}
    (bare : kind.padded = false) (counted : e.send.Counted)
    (next : e.nextChunk data = (some chunk, after)) :
    Chunk.tag? kind chunk = some .apdu ∧ Chunk.sequence kind chunk = e.send.sequence ∧
      after.send.sequence = e.send.sequence + 1 := by
  obtain ⟨-, -, rfl, rfl⟩ := nextChunk_some next
  have small : e.send.sequence + 1 < 65536 := by
    have within := counted.within
    have sequence := counted.sequence
    unfold messageCapacity at within
    omega
  simp only [pad, bare, Bool.false_eq_true, if_false, messageHeader_eq]
  exact ⟨Chunk.tag?_header .., Chunk.sequence_header (by omega) ..,
    Nat.mod_eq_of_lt small⟩

theorem takeComplete_keepsSend (e : Endpoint kind) : e.KeepsSend e.takeComplete.2 := by
  unfold takeComplete
  split <;> exact ⟨rfl, rfl, rfl, id⟩

/-- The host gives up what the link sends: it refuses a chunk, starts over or aborts. -/
def Cancels (e : Endpoint kind) (chunk : List UInt8) : Prop :=
  (∃ error, (e.receive chunk).1 = .error error) ∨ Chunk.tag? kind chunk = some .init ∨
    Chunk.tag? kind chunk = some .abort

theorem queueReply_isSending (e : Endpoint kind) (reply : List UInt8) :
    (e.queueReply reply).2.isSending = e.isSending := by
  unfold queueReply
  split <;> rfl

theorem receive_isSending {e : Endpoint kind} {chunk : List UInt8} (kept : ¬e.Cancels chunk) :
    (e.receive chunk).2.isSending = e.isSending := by
  have reception := receive_reception e chunk
  unfold Cancels at kept
  generalize (e.receive chunk).1 = answer at *
  generalize (e.receive chunk).2 = after at *
  cases reception with
  | refused error => exact absurd (.inl ⟨error, rfl⟩) kept
  | aborted tagged => exact absurd (.inr (.inr tagged)) kept
  | restarted tagged => exact absurd (.inr (.inl tagged)) kept
  | unknown | allocated | dropped => rfl
  | answered reply => rw [answer_endpoint, queueReply_isSending]
  | first | next =>
    simp only [store]
    split <;> rfl

/-- On a negotiated link the host gives up what is sent exactly where its chunk is refused or
answered as an abort. -/
theorem cancels_iff {e : Endpoint .negotiated} {chunk : List UInt8} {given : Received}
    (answer : (e.receive chunk).1 = .ok given) : e.Cancels chunk ↔ given = .reset := by
  have reception := receive_reception e chunk
  have noInit : Chunk.tag? .negotiated chunk ≠ some .init := by
    intro tagged
    obtain ⟨byte, -, classified⟩ := Option.bind_eq_some_iff.mp tagged
    have known := List.mem_of_find?_eq_some classified
    simp [LinkKind.tags] at known
  unfold Cancels
  rw [answer] at reception ⊢
  generalize (e.receive chunk).2 = after at *
  have replies (e : Endpoint .negotiated) (reply : List UInt8) : (e.answer reply).1 ≠ .reset := by
    unfold Endpoint.answer
    split <;> simp
  cases reception with
  | unknown tagged | allocated tagged | dropped tagged => simp [tagged]
  | aborted tagged => simp [tagged]
  | restarted tagged => exact absurd tagged noInit
  | answered reply tagged =>
    simp only [replies, iff_false]
    rcases tagged with tagged | tagged | tagged <;> simp [tagged]
  | first tagged | next tagged =>
    simp only [tagged, store]
    split <;> simp

/-- A control reply goes out, or is held, as it is on a link without padding. -/
theorem queueReply_control (e : Endpoint kind) {reply : List UInt8} (bare : kind.padded = false)
    (control : Chunk.tag? kind reply ≠ some .apdu) :
    (∀ given, (e.queueReply reply).1 = some given → Chunk.tag? kind given ≠ some .apdu) ∧
      ∀ given, (e.queueReply reply).2.held = some given →
        e.held = some given ∨ Chunk.tag? kind given ≠ some .apdu := by
  simp only [queueReply, pad, bare, Bool.false_eq_true, if_false]
  split
  · exact ⟨nofun, fun given same => .inr (Option.some.inj same ▸ control)⟩
  · exact ⟨fun given same => Option.some.inj same ▸ control, fun _ same => .inl same⟩

/-- On a link without padding, neither a reply to the host nor one that is held is a part of a
message. -/
theorem receive_reply (e : Endpoint kind) (chunk : List UInt8) (bare : kind.padded = false) :
    (∀ reply, (e.receive chunk).1 = .ok (.reply reply) → Chunk.tag? kind reply ≠ some .apdu) ∧
      ∀ reply, (e.receive chunk).2.held = some reply →
        e.held = some reply ∨ Chunk.tag? kind reply ≠ some .apdu := by
  have answered (e : Endpoint kind) (reply : List UInt8)
      (control : Chunk.tag? kind reply ≠ some .apdu) :
      (∀ given, (.ok (e.answer reply).1 : Except ChunkError Received) = .ok (.reply given) →
        Chunk.tag? kind given ≠ some .apdu) ∧
      ∀ given, (e.answer reply).2.held = some given →
        e.held = some given ∨ Chunk.tag? kind given ≠ some .apdu := by
    obtain ⟨now, later⟩ := e.queueReply_control bare control
    rw [answer_endpoint]
    refine ⟨fun given same => ?_, later⟩
    unfold answer at same
    split at same <;> rename_i queued <;> cases same
    exact now given (congrArg Prod.fst queued)
  have reception := receive_reception e chunk
  generalize (e.receive chunk).1 = answer at *
  generalize (e.receive chunk).2 = after at *
  cases reception with
  | refused | unknown | allocated | dropped | aborted =>
    exact ⟨fun _ reply => (nomatch reply), fun _ held => .inl held⟩
  | restarted tagged => exact answered e.restart _ (echo_tag (by simp [tagged]))
  | answered reply _ control => exact answered e reply control
  | first | next =>
    constructor
    · intro reply
      simp only [store]
      split <;> exact nofun
    · intro reply
      simp only [store]
      split <;> exact .inl

end Endpoint

end CardLink
