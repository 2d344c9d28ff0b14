import CardLink.Proofs.Framing.Fragments

namespace CardLink

variable {kind : LinkKind}

namespace Sink

/-- The sink was offered the chunks of the first list and accepted those of the second. -/
inductive Took : Sink → List (List UInt8) → List (List UInt8) → Sink → Prop
  | start (s : Sink) : Took s [] [] s
  | accepted {s next after : Sink} {chunk : List UInt8} {offered taken : List (List UInt8)}
      (passes : s.transmit chunk = (.ok (), next)) (rest : Took next offered taken after) :
      Took s (chunk :: offered) (chunk :: taken) after
  | refused {s next after : Sink} {chunk : List UInt8} {offered taken : List (List UInt8)}
      {error : WriteError} (fails : s.transmit chunk = (.error error, next))
      (rest : Took next offered taken after) : Took s (chunk :: offered) taken after

variable {s next after : Sink} {offered more taken others : List (List UInt8)}

theorem Took.append (first : s.Took offered taken next) (second : next.Took more others after) :
    s.Took (offered ++ more) (taken ++ others) after := by
  induction first with
  | start => exact second
  | accepted passes _ ih => exact .accepted passes (ih second)
  | refused fails _ ih => exact .refused fails (ih second)

theorem Took.chunks (took : s.Took offered taken after) : after.chunks = s.chunks ++ offered := by
  induction took with
  | start => exact (List.append_nil _).symm
  | @accepted s _ _ chunk _ _ passes _ ih | @refused s _ _ chunk _ _ _ passes _ ih =>
    have first := s.transmit_chunks chunk
    rw [passes] at first
    rw [ih, first, List.append_assoc]
    rfl

/-- A sink that is offered a chunk accepts it or refuses it. -/
theorem took_transmit (s : Sink) (chunk : List UInt8) :
    ∃ taken : List (List UInt8), taken.Sublist [chunk] ∧
      s.Took [chunk] taken (s.transmit chunk).2 := by
  rcases outcome : s.transmit chunk with ⟨error | ⟨⟩, next⟩
  · exact ⟨[], List.nil_sublist _, .refused outcome (.start _)⟩
  · exact ⟨[chunk], .refl _, .accepted outcome (.start _)⟩

end Sink

/-- Chunks of messages, at least one, whose payloads are the message. Behind it come only the zeros
of a link that pads. -/
structure Chunk.Carries (kind : LinkKind) (data : List UInt8) (chunks : List (List UInt8)) :
    Prop where
  tagged : ∀ chunk ∈ chunks, Chunk.tag? kind chunk = some .apdu
  nonempty : chunks ≠ []
  payloads : ∃ zeros, chunks.flatMap (Chunk.payload kind) = data ++ List.replicate zeros 0 ∧
    (kind.padded = false → zeros = 0)

namespace Endpoint

variable {e after : Endpoint kind} {data : List UInt8} {sink out : Sink}

/-- A held reply is kept while a transmit is on the stack, and else offered to the sink. -/
theorem flushDeferred_took (e : Endpoint kind) (sink : Sink) :
    e.session.lock.inTransmit = true ∧ e.flushDeferred sink = (e, sink) ∨
      ∃ reply, reply.Sublist e.held.toList ∧
        sink.Took e.held.toList reply (e.flushDeferred sink).2 ∧
        (e.flushDeferred sink).1 = { e with held := none } := by
  unfold flushDeferred takeDeferred
  split
  · rename_i reply after taken
    split at taken
    · cases taken
    · obtain ⟨held, rfl⟩ := Prod.mk.inj taken
      obtain ⟨took, sublist, accepted⟩ := sink.took_transmit reply
      rw [held]
      exact .inr ⟨took, sublist, accepted, rfl⟩
  · rename_i after taken
    split at taken
    · rename_i inTransmit
      cases taken
      exact .inl ⟨inTransmit, rfl⟩
    · obtain ⟨held, rfl⟩ := Prod.mk.inj taken
      rw [held]
      exact .inr ⟨[], .refl _, .start _, rfl⟩

/-- The chunks that are left have all been accepted, and the held reply waits, or it was offered
between two of them. -/
def Emptied (e : Endpoint kind) (data : List UInt8) (sink : Sink) (after : Endpoint kind)
    (out : Sink) : Prop :=
  after.held = e.held ∧ sink.Took (e.pieces data) (e.pieces data) out ∨
    after.held = none ∧ ∃ front rear reply, front ++ rear = e.pieces data ∧
      reply.Sublist e.held.toList ∧
      sink.Took (front ++ e.held.toList ++ rear) (front ++ reply ++ rear) out

theorem transmitChunks_emptied {steps : Nat} (sending : e.isSending = true)
    (enough : e.chunksLeft ≤ steps)
    (sent : transmitChunks data steps e sink = (.ok (), after, out)) :
    e.Emptied data sink after out := by
  induction steps generalizing e sink with
  | zero =>
    have inactive : e.send.active = false := by
      unfold chunksLeft at enough
      split at enough <;> simp_all
    cases sent
    refine .inl ⟨rfl, ?_⟩
    rw [pieces, cut_inactive inactive]
    exact .start _
  | succ steps ih =>
    have held := e.nextChunk_held data
    have further := (e.nextChunk_isSending data).trans sending
    rcases next : e.nextChunk data with ⟨_ | chunk, rest⟩ <;> rw [next] at held further
    · simp only [transmitChunks, next] at sent
      cases sent
      refine .inl ⟨held, ?_⟩
      rw [pieces, cut_none next]
      exact .start _
    · have fewer : rest.chunksLeft < e.chunksLeft := chunksLeft_advanced next
      obtain ⟨inside, enter, still, alike, same⟩ := enterTransmit_sending further
      have left : inside.leaveTransmit.chunksLeft = rest.chunksLeft := by
        rw [chunksLeft, ← alike.send]
        rfl
      simp only [transmitChunks, next, enter] at sent
      rcases transmitted : sink.transmit chunk with ⟨error | ⟨⟩, passed⟩ <;>
        rw [transmitted] at sent
      · cases sent
      rw [Emptied, pieces_some next, alike.pieces, ← held, ← same]
      rcases inside.leaveTransmit.flushDeferred_took passed with
        ⟨-, kept⟩ | ⟨reply, sublist, offered, flushed⟩
      · rw [kept] at sent
        rcases ih still (by omega) sent with
          ⟨waits, took⟩ | ⟨gone, front, rear, reply, parts, sublist, took⟩
        · exact .inl ⟨waits, .accepted transmitted took⟩
        · exact .inr ⟨gone, chunk :: front, rear, reply, congrArg (chunk :: ·) parts, sublist,
            .accepted transmitted took⟩
      · -- From here on no reply is held, and the rest goes out without an interruption.
        rw [flushed] at sent
        have rest := ih (e := { inside.leaveTransmit with held := none }) still
          (Nat.le_of_lt_succ (Nat.lt_of_lt_of_le (left ▸ fewer) enough)) sent
        have unheld : CutsAlike ({ inside.leaveTransmit with held := none } : Endpoint kind)
          inside.leaveTransmit := ⟨rfl, rfl, rfl⟩
        rw [Emptied, unheld.pieces] at rest
        refine .inr ⟨?_, [chunk], inside.leaveTransmit.pieces data, reply, rfl, sublist, ?_⟩
        · rcases rest with ⟨none, -⟩ | ⟨none, -⟩ <;> exact none
        · have first : sink.Took ([chunk] ++ inside.leaveTransmit.held.toList) ([chunk] ++ reply)
              (inside.leaveTransmit.flushDeferred passed).2 := .accepted transmitted offered
          refine first.append ?_
          rcases rest with ⟨-, took⟩ | ⟨-, front, rear, other, parts, none, took⟩
          · exact took
          · obtain rfl := List.sublist_nil.mp none
            rw [← parts]
            simpa using took

/-- The chunks of a message of no bytes, or with room for one in the first, carry it; where there
is no such room, there are none. -/
theorem pieces_carries (e : Endpoint kind) (short : data.length ≤ 65535) :
    (Chunk.Carries kind data ((e.begun data.length).pieces data) ↔
        data = [] ∨ kind.leastChunkLength ≤ e.chunkLength) ∧
      (data ≠ [] → e.chunkLength < kind.leastChunkLength →
        (e.begun data.length).pieces data = []) := by
  have empty := e.pieces_begun_eq_nil data
  by_cases wide : kind.leastChunkLength ≤ e.chunkLength
  · refine ⟨iff_of_true ?_ (.inr wide), fun _ narrow => absurd wide (Nat.not_le.mpr narrow)⟩
    have nonempty : (e.begun data.length).pieces data ≠ [] := fun none =>
      absurd wide (Nat.not_le.mpr (empty.mp none).2)
    rw [pieces_begun wide short] at nonempty ⊢
    exact ⟨(Chunk.fragments_fragmentation wide short _).tagged, nonempty,
      Chunk.payload_fragments wide short _⟩
  by_cases none : data = []
  · subst none
    refine ⟨iff_of_true ?_ (.inl rfl), fun some => absurd rfl some⟩
    have next : (e.begun 0).nextChunk [] =
        (some ((e.begun 0).pad ((e.begun 0).messageHeader ++ [])), (e.begun 0).advanced 0) := by
      simp [nextChunk, begun, SendProgress.start, SendProgress.remaining, advanced]
    have single : (e.begun 0).pieces [] =
        [(e.begun 0).pad ((e.begun 0).messageHeader ++ [])] := by
      rw [pieces_some next, pieces, cut_inactive rfl]
    rw [List.length_nil, single, messageHeader_eq, pad_header]
    refine ⟨?_, List.cons_ne_nil _ _, Chunk.padding kind e.chunkLength 0 0, ?_, fun bare => ?_⟩
    · intro chunk member
      obtain rfl := List.mem_singleton.mp member
      exact Chunk.tag?_header ..
    · rw [List.flatMap_singleton]
      exact Chunk.payload_header (by decide : 0 < 65536) ..
    · exact if_neg (Bool.eq_false_iff.mp bare)
  · have gone : (e.begun data.length).pieces data = [] := empty.mpr ⟨none, Nat.not_le.mp wide⟩
    refine ⟨iff_of_false (fun carries => carries.nonempty gone) ?_, fun _ _ => gone⟩
    exact not_or.mpr ⟨none, wide⟩

/-- A send that reports success has had every chunk that it cut accepted, with the reply that was
held, if there was one, offered somewhere among them. The chunks carry the message just if it has
no bytes or a first chunk has room for one; else nothing of it has been offered to the sink. -/
theorem sendAll_carries_iff (free : e.isSending = false)
    (sent : e.sendAll data sink = (.ok (), after, out)) :
    ∃ front rear reply, reply.Sublist e.held.toList ∧
      sink.Took (front ++ e.held.toList ++ rear) (front ++ reply ++ rear) out ∧
      (Chunk.Carries kind data (front ++ rear) ↔
        data = [] ∨ kind.leastChunkLength ≤ e.chunkLength) ∧
      (data ≠ [] → e.chunkLength < kind.leastChunkLength → front ++ rear = []) := by
  have short : data.length ≤ 65535 := by
    by_contra long
    rw [e.sendAll_long (Nat.not_le.mp long)] at sent
    cases sent
  have begun : e.beginSend data.length = (.ok (), e.begun data.length) := beginSend_ok free short
  have sending : (e.begun data.length).isSending = true := rfl
  rcases loop : transmitChunks data (data.length + 1) (e.begun data.length) sink with
    ⟨result, last, passed⟩
  simp only [sendAll, begun, loop] at sent
  simp only [Prod.mk.injEq] at sent
  obtain ⟨rfl, -, rfl⟩ := sent
  obtain ⟨carries, gone⟩ := e.pieces_carries short
  obtain ⟨inTransmit, -⟩ | ⟨reply, sublist, offered, -⟩ := last.finishSend.flushDeferred_took passed
  · cases inTransmit
  have held : last.finishSend.held = last.held := rfl
  have same : (e.begun data.length).held = e.held := rfl
  rw [held] at sublist offered
  rcases transmitChunks_emptied sending (Nat.le_refl _) loop with
    ⟨waits, took⟩ | ⟨flushed, front, rear, early, parts, sublist', took⟩
  · rw [waits, same] at sublist offered
    refine ⟨(e.begun data.length).pieces data, [], reply, sublist, ?_, ?_, ?_⟩
    · simpa using took.append offered
    · rw [List.append_nil]
      exact carries
    · rw [List.append_nil]
      exact gone
  · rw [flushed] at sublist offered
    obtain rfl := List.sublist_nil.mp sublist
    rw [same] at sublist' took
    refine ⟨front, rear, early, sublist', ?_, parts ▸ carries, parts ▸ gone⟩
    simpa using took.append offered

/-- A reply that was held is offered behind the first of two reports, and the sink refuses it. -/
theorem sendAll_carries_iff_reply_lost :
    let e : Endpoint .usb := { layout := .usb 8, held := some [0, 0, 2, 0, 0, 0, 0, 0] }
    let sink : Sink := { outcomes := [none, some .io] }
    e.isSending = false ∧
    ∃ after out, e.sendAll [0x90, 0x00] sink = (.ok (), after, out) ∧
      ∃ front rear reply, reply.Sublist e.held.toList ∧
        sink.Took (front ++ e.held.toList ++ rear) (front ++ reply ++ rear) out ∧
        (Chunk.Carries .usb [0x90, 0x00] (front ++ rear) ↔
          [0x90, 0x00] = ([] : List UInt8) ∨ LinkKind.usb.leastChunkLength ≤ e.chunkLength) ∧
        ([0x90, 0x00] ≠ ([] : List UInt8) → e.chunkLength < LinkKind.usb.leastChunkLength →
          front ++ rear = []) := by
  intro e sink
  exact ⟨rfl, _, _, rfl, sendAll_carries_iff rfl rfl⟩

/-- Two bytes are reported as sent, and no chunk has been offered to the sink. -/
theorem sendAll_carries_nothing :
    let e : Endpoint .legacy := { layout := .legacy 5 }
    ∃ after, e.isSending = false ∧ e.sendAll [0x90, 0x00] {} = (.ok (), after, {}) ∧
      ¬∃ chunks taken, ({} : Sink).Took chunks taken {} ∧
        Chunk.Carries .legacy [0x90, 0x00] taken := by
  refine ⟨_, rfl, rfl, ?_⟩
  rintro ⟨chunks, taken, took, carries⟩
  obtain rfl : chunks = [] := took.chunks.symm
  cases took
  exact carries.nonempty rfl

end Endpoint

end CardLink
