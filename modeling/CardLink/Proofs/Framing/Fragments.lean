import CardLink.Proofs.Framing.Quiet
import CardLink.Proofs.Framing.Supplanting
import Mathlib.Algebra.Order.Floor.Div

namespace CardLink

variable {kind : LinkKind}

namespace Chunk

/-- The bytes of a message that fit into the chunk of this sequence number. -/
def room (kind : LinkKind) (length sequence : Nat) : Nat :=
  length - kind.channelWidth - LinkKind.headerLength sequence

/-- Where in a message the chunk of this sequence number begins, if it has one. -/
def start (kind : LinkKind) (length : Nat) : Nat → Nat
  | 0 => 0
  | sequence + 1 => room kind length 0 + sequence * room kind length 1

/-- How many chunks a message of this size has: the first, and as many others as its remaining bytes
need. -/
def count (kind : LinkKind) (length size : Nat) : Nat :=
  if size ≤ room kind length 0 then 1 else 1 + (size - room kind length 0) ⌈/⌉ room kind length 1

/-- The bytes of the message in the chunk of this sequence number. -/
def part (kind : LinkKind) (length : Nat) (data : List UInt8) (sequence : Nat) : List UInt8 :=
  (data.drop (start kind length sequence)).take (room kind length sequence)

/-- How many zeros follow these bytes of a message in their chunk. -/
def padding (kind : LinkKind) (length sequence bytes : Nat) : Nat :=
  if kind.padded then room kind length sequence - bytes else 0

/-- The chunk of this sequence number. -/
def fragment (kind : LinkKind) (channel : UInt16) (length : Nat) (data : List UInt8)
    (sequence : Nat) : List UInt8 :=
  header kind channel sequence data.length ++ (part kind length data sequence ++
    List.replicate (padding kind length sequence (part kind length data sequence).length) 0)

def fragments (kind : LinkKind) (channel : UInt16) (length : Nat) (data : List UInt8) :
    List (List UInt8) :=
  (List.range (count kind length data.length)).map (fragment kind channel length data)

/-- What a reader of the wire sees in the chunks of a message, without any state of a link. The
sequence numbers do not wrap, and only the first chunk names the total: what follows the sequence
number of another one is payload. -/
structure Fragmentation (kind : LinkKind) (channel : UInt16) (length : Nat) (data : List UInt8)
    (chunks : List (List UInt8)) : Prop where
  tagged : ∀ chunk ∈ chunks, tag? kind chunk = some .apdu
  sequences : chunks.map (sequence kind) = List.range chunks.length
  channels : kind.channelWidth = 2 → ∀ chunk ∈ chunks, Endpoint.channelOf kind chunk = channel
  declared : ∀ chunk ∈ chunks.head?, declared kind chunk = data.length
  payloads : ∃ zeros, chunks.flatMap (payload kind) = data ++ List.replicate zeros 0 ∧
    (kind.padded = false → zeros = 0)
  fits : ∀ chunk ∈ chunks, chunk.length ≤ length
  padded : kind.padded = true → ∀ chunk ∈ chunks, chunk.length = length
  full : ∀ chunk ∈ chunks.dropLast, chunk.length = length
  count : chunks.length =
    if data.length ≤ length - kind.channelWidth - 5 then 1
    else 1 + (data.length - (length - kind.channelWidth - 5)) ⌈/⌉ (length - kind.channelWidth - 3)

theorem start_later (length sequence : Nat) : start kind length (sequence + 1) =
    room kind length 0 + sequence * room kind length 1 := rfl

theorem count_pos (kind : LinkKind) (length size : Nat) : 0 < count kind length size := by
  unfold count
  split
  · exact Nat.one_pos
  · exact Nat.add_pos_left Nat.one_pos _

theorem room_later (length : Nat) {sequence : Nat} (later : sequence ≠ 0) :
    room kind length sequence = room kind length 1 := by
  rw [room, room, LinkKind.headerLength, if_neg later]
  rfl

theorem start_succ (kind : LinkKind) (length sequence : Nat) :
    start kind length (sequence + 1) = start kind length sequence + room kind length sequence := by
  cases sequence with
  | zero => simp [start]
  | succ sequence =>
    rw [room_later length (Nat.succ_ne_zero sequence), start, start, Nat.succ_mul, Nat.add_assoc]

section Arithmetic

variable {length size sequence : Nat} (wide : kind.leastChunkLength ≤ length)
include wide

theorem room_pos (sequence : Nat) : 0 < room kind length sequence := by
  unfold LinkKind.leastChunkLength at wide
  unfold room LinkKind.headerLength
  split <;> omega

theorem room_add (sequence : Nat) :
    kind.channelWidth + LinkKind.headerLength sequence + room kind length sequence = length := by
  have positive := room_pos wide sequence
  unfold room at positive ⊢
  omega

/-- There is a further chunk exactly where a byte is left for it. -/
theorem succ_lt_count_iff (size sequence : Nat) :
    sequence + 1 < count kind length size ↔ start kind length (sequence + 1) < size := by
  rw [start_later, count]
  split
  · omega
  · rw [Nat.add_comm sequence 1, Nat.add_lt_add_iff_left, ← Nat.not_le,
      ceilDiv_le_iff_le_mul (room_pos wide 1), Nat.mul_comm]
    omega

/-- Every chunk begins within the message, and each one before it has taken a byte; so the sequence
numbers do not wrap. -/
theorem start_of_lt_count (within : sequence < count kind length size) :
    sequence ≤ start kind length sequence ∧ start kind length sequence ≤ size ∧
      (sequence = 0 ∨ start kind length sequence < size) := by
  cases sequence with
  | zero => exact ⟨Nat.le_refl 0, Nat.zero_le _, .inl rfl⟩
  | succ sequence =>
    have first := room_pos wide 0
    have behind : sequence ≤ sequence * room kind length 1 :=
      Nat.le_mul_of_pos_right _ (room_pos wide 1)
    have begins := (succ_lt_count_iff wide _ sequence).mp within
    refine ⟨?_, Nat.le_of_lt begins, .inr begins⟩
    rw [start_later]
    omega

end Arithmetic

section Contents

variable {length sequence : Nat} {data : List UInt8}

theorem part_length (kind : LinkKind) (length : Nat) (data : List UInt8) (sequence : Nat) :
    (part kind length data sequence).length =
      min (room kind length sequence) (data.length - start kind length sequence) := by
  rw [part, List.length_take, List.length_drop]

/-- Of the chunks of a message only the last one may have room left. -/
theorem part_full (wide : kind.leastChunkLength ≤ length)
    (more : sequence + 1 < count kind length data.length) :
    (part kind length data sequence).length = room kind length sequence := by
  have next := start_succ kind length sequence
  have begins := (succ_lt_count_iff wide _ sequence).mp more
  rw [part_length]
  omega

theorem fragment_length (wide : kind.leastChunkLength ≤ length) (channel : UInt16) :
    (fragment kind channel length data sequence).length ≤ length ∧
      (kind.padded = true ∨
          (part kind length data sequence).length = room kind length sequence →
        (fragment kind channel length data sequence).length = length) := by
  have room := room_add wide sequence
  have part := part_length kind length data sequence
  simp only [fragment, padding, List.length_append, List.length_replicate, header_length]
  split
  · omega
  · rename_i bare
    refine ⟨by omega, ?_⟩
    rintro (padded | full)
    · exact absurd padded bare
    · omega

theorem payload_fragment (small : sequence < 65536) (channel : UInt16) :
    payload kind (fragment kind channel length data sequence) = part kind length data sequence ++
      List.replicate (padding kind length sequence (part kind length data sequence).length) 0 :=
  payload_header small channel _ _

/-- The chunks in front of another one carry the message up to where that one begins. -/
theorem payload_before (wide : kind.leastChunkLength ≤ length) (short : data.length ≤ 65535)
    (channel : UInt16) (within : sequence < count kind length data.length) :
    (List.range sequence).flatMap (fun number =>
        payload kind (fragment kind channel length data number)) =
      data.take (start kind length sequence) := by
  induction sequence with
  | zero => rfl
  | succ sequence ih =>
    have before : sequence < count kind length data.length := Nat.lt_of_succ_lt within
    have reached := start_of_lt_count wide before
    have bare : padding kind length sequence (part kind length data sequence).length = 0 := by
      rw [part_full wide within, padding, Nat.sub_self, ite_self]
    rw [List.range_succ, List.flatMap_append, ih before, List.flatMap_singleton,
      payload_fragment (by omega), bare, List.replicate_zero, List.append_nil, start_succ,
      List.take_add, part]

end Contents

section Fragmentation

variable {length : Nat} {data : List UInt8} (wide : kind.leastChunkLength ≤ length)
  (short : data.length ≤ 65535) (channel : UInt16)
include wide short

theorem payload_fragments :
    ∃ zeros, (fragments kind channel length data).flatMap (payload kind) =
        data ++ List.replicate zeros 0 ∧ (kind.padded = false → zeros = 0) := by
  obtain ⟨last, many⟩ := Nat.exists_eq_add_one.mpr (count_pos kind length data.length)
  have within : last < count kind length data.length := by omega
  have reached := start_of_lt_count wide within
  have next := start_succ kind length last
  have ends := succ_lt_count_iff wide data.length last
  have rest : part kind length data last = data.drop (start kind length last) :=
    List.take_of_length_le (by rw [List.length_drop]; omega)
  refine ⟨padding kind length last (part kind length data last).length, ?_, fun bare => ?_⟩
  · rw [fragments, many, List.range_succ, List.flatMap_map, List.flatMap_append,
      payload_before wide short channel within, List.flatMap_singleton,
      payload_fragment (by omega), rest, ← List.append_assoc, List.take_append_drop]
  · rw [padding, bare]
    rfl

/-- The closed forms are the chunks of the message. -/
theorem fragments_fragmentation :
    Fragmentation kind channel length data (fragments kind channel length data) where
  tagged := by
    intro chunk member
    obtain ⟨number, -, rfl⟩ := List.mem_map.mp member
    exact tag?_header ..
  sequences := by
    rw [fragments, List.map_map, List.length_map, List.length_range]
    conv_rhs => rw [← List.map_id (List.range _)]
    refine List.map_congr_left fun number member => ?_
    have reached := start_of_lt_count wide (List.mem_range.mp member)
    exact sequence_header (by omega) ..
  channels := by
    intro twoBytes chunk member
    obtain ⟨number, -, rfl⟩ := List.mem_map.mp member
    exact channelOf_header twoBytes ..
  declared := by
    obtain ⟨last, many⟩ := Nat.exists_eq_add_one.mpr (count_pos kind length data.length)
    intro chunk first
    rw [fragments, many, List.range_succ_eq_map] at first
    cases first
    exact declared_header (by omega) ..
  payloads := payload_fragments wide short channel
  fits := by
    intro chunk member
    obtain ⟨number, -, rfl⟩ := List.mem_map.mp member
    exact (fragment_length wide channel).1
  padded := by
    intro padded chunk member
    obtain ⟨number, -, rfl⟩ := List.mem_map.mp member
    exact (fragment_length wide channel).2 (.inl padded)
  full := by
    obtain ⟨last, many⟩ := Nat.exists_eq_add_one.mpr (count_pos kind length data.length)
    intro chunk member
    rw [fragments, many, List.range_succ, List.map_append, List.map_singleton,
      List.dropLast_concat] at member
    obtain ⟨number, before, rfl⟩ := List.mem_map.mp member
    have more := List.mem_range.mp before
    exact (fragment_length wide channel).2 (.inr (part_full wide (by omega)))
  count := by
    rw [fragments, List.length_map, List.length_range]
    rfl

end Fragmentation

end Chunk

namespace Endpoint

variable {e : Endpoint kind} {data : List UInt8} {number : Nat}

theorem pad_header (e : Endpoint kind) (channel : UInt16) (sequence total : Nat)
    (part : List UInt8) :
    e.pad (Chunk.header kind channel sequence total ++ part) =
      Chunk.header kind channel sequence total ++ (part ++
        List.replicate (Chunk.padding kind e.chunkLength sequence part.length) 0) := by
  unfold pad Chunk.padding
  split
  · rw [List.append_assoc, List.length_append, Chunk.header_length, Chunk.room, Nat.sub_sub,
      Nat.sub_sub, Nat.add_assoc]
  · rw [List.replicate_zero, List.append_nil]

/-- The chunks in front of this sequence number have been cut off the message. -/
structure Reached (e : Endpoint kind) (data : List UInt8) (number : Nat) : Prop where
  total : e.send.length = data.length
  sequence : e.send.sequence = number
  offset : e.send.offset = min (Chunk.start kind e.chunkLength number) data.length
  active : e.send.active = decide (number < Chunk.count kind e.chunkLength data.length)

theorem begun_reached (e : Endpoint kind) (data : List UInt8) :
    (e.begun data.length).Reached data 0 :=
  ⟨rfl, rfl, (Nat.zero_min _).symm, (decide_eq_true (Chunk.count_pos ..)).symm⟩

section Reached

variable (reached : e.Reached data number) (wide : kind.leastChunkLength ≤ e.chunkLength)
  (short : data.length ≤ 65535)
include reached wide

theorem Reached.nextCount (within : number < Chunk.count kind e.chunkLength data.length) :
    e.send.offset = Chunk.start kind e.chunkLength number ∧
      e.nextCount = min (Chunk.room kind e.chunkLength number)
        (data.length - Chunk.start kind e.chunkLength number) := by
  have begins := (Chunk.start_of_lt_count wide within).2.1
  have offset : e.send.offset = Chunk.start kind e.chunkLength number := by
    rw [reached.offset]
    exact Nat.min_eq_left begins
  refine ⟨offset, ?_⟩
  rw [Endpoint.nextCount, messageHeader_eq, Chunk.header_length, SendProgress.remaining,
    reached.total, reached.sequence, offset, Chunk.room, Nat.sub_sub]

include short

/-- What is cut off next is the chunk of this sequence number. -/
theorem Reached.next (within : number < Chunk.count kind e.chunkLength data.length) :
    ∃ after, e.nextChunk data =
        (some (Chunk.fragment kind e.session.channel e.chunkLength data number), after) ∧
      after.Reached data (number + 1) ∧ after.layout = e.layout ∧
      after.session.channel = e.session.channel := by
  have active : e.send.active = true := by
    rw [reached.active]
    exact decide_eq_true within
  obtain ⟨offset, taken⟩ := reached.nextCount wide within
  obtain ⟨behind, begins, inner⟩ := Chunk.start_of_lt_count wide within
  have next := Chunk.start_succ kind e.chunkLength number
  have inside : e.send.offset ≤ data.length := offset ▸ begins
  have part : (data.drop e.send.offset).take e.nextCount =
      Chunk.part kind e.chunkLength data number := by
    rw [taken, offset, ← List.length_drop]
    exact List.take_eq_take_min.symm
  refine ⟨e.advanced e.nextCount, ?_, ⟨reached.total, ?_, ?_, ?_⟩, rfl, rfl⟩
  · rw [nextChunk_active active reached.total inside wide, part, messageHeader_eq, reached.total,
      reached.sequence, pad_header]
    rfl
  · show nextSequence e.send.sequence = number + 1
    rw [reached.sequence, nextSequence]
    exact Nat.mod_eq_of_lt (by omega)
  · show e.send.offset + e.nextCount = min (Chunk.start kind e.chunkLength (number + 1)) data.length
    omega
  · have more := Chunk.succ_lt_count_iff wide data.length number
    show decide (0 < (e.send.remaining - e.nextCount)) =
      decide (number + 1 < Chunk.count kind e.chunkLength data.length)
    rw [SendProgress.remaining, reached.total, decide_eq_decide, more]
    omega

/-- All that is left to be cut off are the chunks from this sequence number on. -/
theorem Reached.pieces : e.pieces data =
    (List.range' number (Chunk.count kind e.chunkLength data.length - number)).map
      (Chunk.fragment kind e.session.channel e.chunkLength data) := by
  induction left : Chunk.count kind e.chunkLength data.length - number
    generalizing e number with
  | zero =>
    have inactive : e.send.active = false := by
      rw [reached.active]
      exact decide_eq_false (by omega)
    exact cut_inactive inactive
  | succ left ih =>
    obtain ⟨after, next, further, layout, channel⟩ := reached.next wide short (by omega)
    have length : after.chunkLength = e.chunkLength := congrArg Layout.chunkLength layout
    have rest := ih further (length ▸ wide) (by rw [length]; omega)
    rw [pieces_some next, rest, List.range'_succ, List.map_cons, length, channel]

end Reached

/-- A message is cut into its chunks. -/
theorem pieces_begun (wide : kind.leastChunkLength ≤ e.chunkLength)
    (short : data.length ≤ 65535) : (e.begun data.length).pieces data =
      Chunk.fragments kind e.session.channel e.chunkLength data := by
  rw [(begun_reached e data).pieces wide short, Nat.sub_zero, ← List.range_eq_range']
  rfl

/-- The sink is offered the chunks of the message up to the first that fails, and the endpoint is
free again, its reception as it was. A message too long for its length field is refused, and then
nothing happens. -/
theorem sendAll_fragments (data : List UInt8) (sink : Sink) (free : e.isSending = false)
    (unheld : e.held = none) (wide : kind.leastChunkLength ≤ e.chunkLength) :
    (data.length ≤ 65535 →
      let chunks := Chunk.fragments kind e.session.channel e.chunkLength data
      Chunk.Fragmentation kind e.session.channel e.chunkLength data chunks ∧
        ∃ result after out, e.sendAll data sink = (result, after, out) ∧
          sink.Offered out chunks result ∧
          after.isSending = false ∧ after.session.lock.inTransmit = false ∧
          after.send.active = false ∧ e.SameReception after) ∧
      (65535 < data.length → e.sendAll data sink = (.error (.tooLong data.length), e, sink)) := by
  refine ⟨fun short => ?_, fun long => sendAll_long e long sink⟩
  refine ⟨Chunk.fragments_fragmentation wide short _, ?_⟩
  obtain ⟨after, sent, quiet, ended, -⟩ := sendAll_pieces free unheld short sink
  have same := e.sendAll_sameReception data sink
  rw [sent] at same
  rw [pieces_begun wide short] at sent
  refine ⟨_, after, _, sent, sink.transmitAll_offered _, quiet.free, ?_, ?_, same⟩
  · rw [quiet.lock]
    rfl
  · rw [ended]

/-- Eight bytes need four reports of eight bytes, the last of them filled up with zeros. The third
one fails; a reception is under way, and a transmit that was cancelled is still on the stack. -/
theorem sendAll_fragments_third_fails :
    let session : Session :=
      { expected := 1, remaining := 3, total := 4, cursor := 1, channel := 0x0102,
        lock := { depth := 1 } }
    let e : Endpoint .usb := { layout := .usb 8, session := session }
    let data : List UInt8 := [1, 2, 3, 4, 5, 6, 7, 8]
    let sink : Sink := { outcomes := [none, none, some .io] }
    let chunks : List (List UInt8) :=
      [[1, 2, 5, 0, 0, 0, 8, 1], [1, 2, 5, 0, 1, 2, 3, 4], [1, 2, 5, 0, 2, 5, 6, 7],
        [1, 2, 5, 0, 3, 8, 0, 0]]
    (e.isSending = false ∧ e.held = none ∧ LinkKind.usb.leastChunkLength ≤ e.chunkLength ∧
      data.length ≤ 65535) ∧
    Chunk.fragments .usb 0x0102 8 data = chunks ∧
    Chunk.Fragmentation .usb 0x0102 8 data chunks ∧
    ∃ after out, e.sendAll data sink = (.error (.link .io), after, out) ∧
      out.chunks = chunks.take 3 ∧ after.isSending = false ∧
      after.session.lock.inTransmit = false ∧ after.send.active = false ∧
      e.SameReception after := by
  intro session e data sink chunks
  have wide : LinkKind.usb.leastChunkLength ≤ e.chunkLength := by decide
  have short : data.length ≤ 65535 := by decide
  have cut : Chunk.fragments .usb 0x0102 8 data = chunks := by decide +kernel
  obtain ⟨fragmentation, result, after, out, sent, offered, free⟩ :=
    (sendAll_fragments data sink rfl rfl wide).1 short
  obtain ⟨rfl, taken⟩ := offered.failed 2 (by decide +kernel) .io (by decide) rfl
  exact ⟨⟨rfl, rfl, wide, short⟩, cut, cut ▸ fragmentation, after, out, sent,
    taken.trans (congrArg (List.take 3) cut), free⟩

end Endpoint

end CardLink
