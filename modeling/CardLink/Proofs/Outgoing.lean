import CardLink.Proofs.Controller.Outstanding
import CardLink.Proofs.Framing.Offering
import CardLink.Proofs.Framing.Sizes
import CardLink.UsbDevice

namespace CardLink

open Endpoint

/-- The answer is queued as any other reply, and goes out at once unless it is held. -/
theorem UsbDevice.answerChannel_operate (d : UsbDevice) (channel : UInt16) (sink : Sink) :
    ∃ reply, OwnReply .usb reply ∧
      (d.answerChannel channel sink).1.endpoint = (d.endpoint.operate (.queueReply reply)).2 ∧
      (d.answerChannel channel sink).2.chunks =
        sink.chunks ++ (d.endpoint.operate (.queueReply reply)).1.chunk?.toList := by
  refine ⟨_, .channel d.endpoint channel d.random.next.1, ?_⟩
  simp only [answerChannel, operate]
  split <;> rename_i queued <;> rw [queued]
  · exact ⟨rfl, Sink.transmit_chunks ..⟩
  · exact ⟨rfl, (List.append_nil _).symm⟩

namespace Controller.Core

variable {c : Core} {asked : List UInt8} {channel : UInt16}

theorem feed_channelRequest
    (requested : (c.endpoint.receive asked).1 = .ok (.channelRequest channel)) :
    c.feed asked = queueNotify { c with endpoint := (c.endpoint.receive asked).2 }
      (c.endpoint.controlHeader channel Tag.allocateChannel.byte) false := by
  rcases received : c.endpoint.receive asked with ⟨answer, endpoint⟩
  rw [received] at requested
  obtain rfl : answer = .ok (.channelRequest channel) := requested
  simp only [feed, received]
  rfl

end Controller.Core

variable {settings : Settings}

/-- With valid settings a link never hands out a chunk that is longer than the chunk length it was
built at, but for one kind: a version reply for which there is no room. Reports on USB have exactly
that length. So it is with every operation on an endpoint, whatever has happened to it before, and
with what the owners of the endpoints answer to a request for a channel. -/
theorem outgoing_keeps_iff (valid : settings.validate = .ok ()) :
    (∀ (kind : LinkKind) (past : List (Endpoint kind × Operation kind)) (e : Endpoint kind)
      (operation : Operation kind) (chunk : List UInt8), Course settings past e →
      operation.Proper settings → (e.operate operation).1.chunk? = some chunk →
      ∃ made, MadeBy past e operation made ∧ made.1.built? made.2 = some chunk ∧
        made.1.Keeps chunk) ∧
    (∀ (d : UsbDevice) (past : List (Endpoint .usb × Operation .usb)) (channel : UInt16)
      (sink : Sink), Course settings past d.endpoint →
      ∃ reply chunk, OwnReply .usb reply ∧
        d.endpoint.built? (.queueReply reply) = some chunk ∧ d.endpoint.Keeps chunk ∧
        (d.answerChannel channel sink).1.endpoint = (d.endpoint.operate (.queueReply reply)).2 ∧
        (d.answerChannel channel sink).2.chunks =
          sink.chunks ++ (d.endpoint.operate (.queueReply reply)).1.chunk?.toList) ∧
    ∀ (random : RandomSource) (name : String) (address : List UInt8) (planeMode : Bool)
      (past : List (Controller.Core × Controller.Input)) (c : Controller.Core)
      (asked : List UInt8) (channel : UInt16),
      Controller.Run (.create settings random name address planeMode) past c →
      (c.endpoint.receive asked).1 = .ok (.channelRequest channel) →
      ∃ reply, c.endpoint.Keeps reply ∧
        c.feed asked = ({ c with endpoint := (c.endpoint.receive asked).2 } :
          Controller.Core).queueNotify reply false := by
  have s := settings.proportioned valid
  refine ⟨?_, ?_, ?_⟩
  · intro kind past e operation chunk course proper given
    exact course.chunk?_keeps s proper given
  · intro d past channel sink course
    obtain ⟨reply, own, endpoint, chunks⟩ := d.answerChannel_operate channel sink
    have least := (course.sound s).1.least
    exact ⟨reply, _, own, rfl, ownReply_keeps least own, endpoint, chunks⟩
  · intro random name address planeMode past c asked channel run requested
    have least : LinkKind.negotiated.leastChunkLength ≤ c.endpoint.chunkLength :=
      (run.roomy valid).chunkLength
    have keeps : c.endpoint.Keeps (c.endpoint.controlHeader channel Tag.allocateChannel.byte) :=
      keeps_pad (e := c.endpoint) least (Nat.le_trans (by decide : 1 ≤ 6) least)
        (.inr (Nat.le_trans (by decide : 5 ≤ 6) least))
    exact ⟨_, keeps, Controller.Core.feed_channelRequest requested⟩

/-- A version reply that was held while a chunk of six bytes was on its way. -/
theorem outgoing_keeps_iff_held :
    let settings : Settings := { Settings.standard with legacyChunkLength := 6 }
    let operations : List (Operation .legacy) :=
      [.beginSend 1, .enterTransmit, .receive [0x00, 0x00, 0x00], .leaveTransmit]
    let reply : List UInt8 := [0x00, 0x00, 0x00, 0x00, 0x04, 0x00, 0x00, 0x00, 0x00]
    settings.validate = .ok () ∧
    ∃ (past : List (Endpoint .legacy × Operation .legacy)) (e : Endpoint .legacy),
      past.map Prod.snd = operations ∧ Course settings past e ∧
      (e.operate .takeDeferred).1.chunk? = some reply ∧
      ∃ made, MadeBy past e .takeDeferred made ∧ made.1.built? made.2 = some reply ∧
        made.1.Keeps reply := by
  intro settings operations reply
  have valid : settings.validate = .ok () := rfl
  have started : Course settings [] ({ layout := settings.layout .legacy } : Endpoint .legacy) :=
    .start
  have sending := (started.next (.beginSend 1) trivial).next .enterTransmit trivial
  have course := (sending.next (.receive [0x00, 0x00, 0x00]) trivial).next .leaveTransmit trivial
  exact ⟨valid, _, _, rfl, course, rfl,
    (outgoing_keeps_iff valid).1 _ _ _ .takeDeferred reply course trivial rfl⟩

/-- The reply to a request for the version has nine bytes, also where a chunk has six. -/
theorem version_reply_too_long :
    let settings : Settings := { Settings.standard with legacyChunkLength := 6 }
    let e : Endpoint .legacy := { layout := settings.layout .legacy }
    settings.validate = .ok () ∧ Course settings [] e ∧
    ∃ reply, (e.operate (.receive [0x00, 0x00, 0x00])).1.chunk? = some reply ∧
      e.built? (.receive [0x00, 0x00, 0x00]) = some reply ∧ ¬reply.length ≤ e.chunkLength :=
  ⟨rfl, .start, _, rfl, rfl, by decide⟩

end CardLink
