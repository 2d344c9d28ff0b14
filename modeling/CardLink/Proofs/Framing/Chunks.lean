import CardLink.Proofs.Framing.Cutting

namespace CardLink

theorem LinkKind.headerLength_bounds (sequence : Nat) :
    3 ≤ headerLength sequence ∧ headerLength sequence ≤ 5 := by
  unfold headerLength
  split <;> omega

namespace Chunk

/-- The chunks that carry these bytes of a message from a sequence number on. There is always one,
also when it has nothing to carry. -/
def carrying (length total sequence : Nat) (data : List UInt8) : List (List UInt8) :=
  let room := length - LinkKind.headerLength sequence
  (header .legacy 0 sequence total ++ data.take room) ::
    if data.length ≤ room ∨ room = 0 then [] else
      carrying length total (sequence + 1) (data.drop room)
termination_by data.length
decreasing_by
  rw [List.length_drop]
  omega

/-- The chunks of a message on the legacy link. -/
def ofMessage (length : Nat) (data : List UInt8) : List (List UInt8) :=
  carrying length data.length 0 data

/-- The chunks carry all of the message in order. -/
theorem payload_carrying {length total sequence : Nat} {data : List UInt8} (wide : 6 ≤ length)
    (short : sequence + data.length < 65536) :
    (carrying length total sequence data).flatMap (payload .legacy) = data := by
  have room := LinkKind.headerLength_bounds sequence
  rw [carrying, List.flatMap_cons, payload_header (by omega)]
  by_cases last : data.length ≤ length - LinkKind.headerLength sequence
  · rw [if_pos (.inl last), List.take_of_length_le last]
    exact List.append_nil data
  · have fewer : (data.drop (length - LinkKind.headerLength sequence)).length =
        data.length - (length - LinkKind.headerLength sequence) := List.length_drop
    rw [if_neg (by omega), payload_carrying wide (by omega)]
    exact List.take_append_drop ..
termination_by data.length
decreasing_by
  rw [List.length_drop]
  omega

theorem header_channel (channel : UInt16) (sequence total : Nat) :
    header .legacy channel sequence total = header .legacy 0 sequence total := rfl

end Chunk

namespace Endpoint

/-- A message is going out whole: what is left of it is left of this message, and every chunk takes
a byte. -/
structure Underway (e : Endpoint .legacy) (data : List UInt8) : Prop where
  total : e.send.length = data.length
  within : e.send.offset ≤ data.length
  room : LinkKind.legacy.leastChunkLength ≤ e.chunkLength
  counted : e.send.active = true → e.send.sequence ≤ e.send.offset

/-- The chunks that are still to be cut off. -/
def left (e : Endpoint .legacy) (data : List UInt8) : List (List UInt8) :=
  if e.send.active then
    Chunk.carrying e.chunkLength data.length e.send.sequence (data.drop e.send.offset)
  else []

variable {e after : Endpoint .legacy} {data : List UInt8}

theorem Underway.congr (underway : e.Underway data) (layout : after.layout = e.layout)
    (send : after.send = e.send) : after.Underway data where
  total := send ▸ underway.total
  within := send ▸ underway.within
  room := by
    unfold chunkLength
    exact layout ▸ underway.room
  counted := send ▸ underway.counted

theorem left_congr (layout : after.layout = e.layout) (send : after.send = e.send) :
    after.left data = e.left data := by
  simp only [left, chunkLength, layout, send]

theorem chunksLeft_congr (send : after.send = e.send) : after.chunksLeft = e.chunksLeft := by
  simp only [chunksLeft, send]

theorem left_begun (e : Endpoint .legacy) (data : List UInt8) (started : e.send = .start data.length) :
    e.left data = Chunk.ofMessage e.chunkLength data := by
  simp only [left, started]
  rfl

/-- What is cut off has the tag and the header of a message's chunk. -/
theorem nextChunk_message {chunk : List UInt8} (next : e.nextChunk data = (some chunk, after)) :
    Chunk.tag? .legacy chunk = some .apdu ∧ 3 ≤ chunk.length := by
  obtain ⟨-, -, rfl, -⟩ := nextChunk_some next
  have header := LinkKind.headerLength_bounds e.send.sequence
  rw [messageHeader_eq]
  refine ⟨Chunk.tag?_header .., ?_⟩
  show 3 ≤ (Chunk.header .legacy 0 e.send.sequence e.send.length ++ _).length
  rw [List.length_append, Chunk.header_length]
  exact Nat.le_trans header.1 (Nat.le_trans (Nat.le_add_left ..) (Nat.le_add_right ..))

section Next

variable (underway : e.Underway data)
include underway

theorem Underway.header :
    e.messageHeader = Chunk.header .legacy 0 e.send.sequence data.length := by
  rw [messageHeader_eq, Chunk.header_channel, underway.total]

theorem Underway.nextCount : e.nextCount =
    min (e.chunkLength - LinkKind.headerLength e.send.sequence) (data.length - e.send.offset) := by
  have width : e.messageHeader.length = LinkKind.headerLength e.send.sequence := by
    rw [underway.header, Chunk.header_length]
    exact Nat.zero_add _
  rw [Endpoint.nextCount, width, SendProgress.remaining, underway.total]

theorem Underway.advanced (active : e.send.active = true) :
    (e.advanced e.nextCount).Underway data := by
  have count := underway.nextCount
  have header := LinkKind.headerLength_bounds e.send.sequence
  obtain ⟨total, within, room, counted⟩ := underway
  have behind := counted active
  have least : 6 ≤ e.chunkLength := room
  refine ⟨total, ?_, room, fun more => ?_⟩
  · show e.send.offset + e.nextCount ≤ data.length
    omega
  · have more := of_decide_eq_true more
    rw [SendProgress.remaining, total] at more
    show (e.send.sequence + 1) % 65536 ≤ e.send.offset + e.nextCount
    omega

/-- While bytes are left, the sequence number is behind their offset, and so it does not wrap. -/
theorem Underway.left_advanced (short : data.length ≤ 65535) (active : e.send.active = true) :
    e.left data = (e.messageHeader ++ (data.drop e.send.offset).take e.nextCount) ::
      (e.advanced e.nextCount).left data := by
  have count := underway.nextCount
  have header := LinkKind.headerLength_bounds e.send.sequence
  have least : 6 ≤ e.chunkLength := underway.room
  have behind := underway.counted active
  have part : (data.drop e.send.offset).take e.nextCount = (data.drop e.send.offset).take
      (e.chunkLength - LinkKind.headerLength e.send.sequence) := by
    rw [count, ← List.length_drop]
    exact List.take_eq_take_min.symm
  have progress : ¬e.chunkLength - LinkKind.headerLength e.send.sequence = 0 := by omega
  have remaining : e.send.remaining = data.length - e.send.offset := by
    rw [SendProgress.remaining, underway.total]
  rw [part, underway.header]
  simp only [left, active, if_true]
  rw [Chunk.carrying]
  congr 1
  simp only [List.length_drop, progress, or_false, Endpoint.advanced, decide_eq_true_eq, remaining]
  by_cases last : data.length - e.send.offset ≤
      e.chunkLength - LinkKind.headerLength e.send.sequence
  · rw [if_pos last, if_neg (by omega)]
  · have full : e.nextCount = e.chunkLength - LinkKind.headerLength e.send.sequence := by omega
    have next : nextSequence e.send.sequence = e.send.sequence + 1 := by
      unfold nextSequence
      omega
    rw [if_neg last, if_pos (by omega), next, full, List.drop_drop]
    rfl

/-- The chunk that is cut off is the first one of those that are left, and a part of a message. -/
theorem Underway.next (short : data.length ≤ 65535) (active : e.send.active = true) :
    ∃ chunk after, e.nextChunk data = (some chunk, after) ∧ after.Underway data ∧
      e.left data = chunk :: after.left data ∧ Chunk.tag? .legacy chunk = some .apdu ∧
      3 ≤ chunk.length := by
  have next := nextChunk_active active underway.total underway.within underway.room
  exact ⟨_, _, next, underway.advanced active, underway.left_advanced short active,
    nextChunk_message next⟩

end Next

end Endpoint

end CardLink
