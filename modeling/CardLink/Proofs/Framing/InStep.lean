import CardLink.Proofs.Framing.Cutting
import CardLink.Proofs.Framing.Reception
import CardLink.Proofs.Framing.Storage

namespace CardLink.Endpoint

variable {kind : LinkKind}

/-- The receiver has stored the message up to the offset and waits for the chunk of this sequence
number. -/
structure Holds (r : Endpoint kind) (data : List UInt8) (offset sequence : Nat)
    (channel : UInt16) : Prop where
  free : r.isSending = false
  expected : r.session.expected = sequence
  channel : 0 < kind.channelWidth → r.session.channel = channel
  total : r.session.total = data.length
  stored : r.Stored (data.take offset)

theorem Holds.store_more {r : Endpoint kind} {data : List UInt8} {offset sequence count : Nat}
    {channel : UInt16} (holds : r.Holds data offset sequence channel)
    (within : offset + count < data.length) :
    (r.store ((data.drop offset).take count)).1 = .needMore ∧
      (r.store ((data.drop offset).take count)).2.Holds data (offset + count)
        (nextSequence sequence) channel := by
  have cursor := holds.stored.cursor
  have balance := holds.stored.balance
  have total := holds.total
  have part : ((data.drop offset).take count).length = count := by
    simp only [List.length_take, List.length_drop]
    omega
  rw [List.length_take] at cursor
  have left : ¬r.session.remaining - count = 0 := by omega
  have fits : ((data.drop offset).take count).length < r.session.remaining := by omega
  obtain ⟨answer, session, stored⟩ := holds.stored.more fits
  rw [← List.take_add] at stored
  rw [part] at session
  refine ⟨answer, ?_, ?_, ?_, ?_, stored⟩
  · rw [isSending, session]
    exact holds.free
  · simp only [session, Session.advance, left, if_false, holds.expected]
  · rw [session]
    exact holds.channel
  · rw [session]
    exact total

theorem Holds.store_last {r : Endpoint kind} {data : List UInt8} {offset sequence count : Nat}
    {channel : UInt16} (holds : r.Holds data offset sequence channel)
    (last : offset + count = data.length) (padding : List UInt8) :
    (r.store ((data.drop offset).take count ++ padding)).1 = .complete data.length ∧
      (r.store ((data.drop offset).take count ++ padding)).2.Delivered data := by
  have cursor := holds.stored.cursor
  have balance := holds.stored.balance
  have total := holds.total
  rw [List.length_take] at cursor
  have enough : r.session.remaining ≤ ((data.drop offset).take count ++ padding).length := by
    simp only [List.length_append, List.length_take, List.length_drop]
    omega
  obtain ⟨answer, delivered, -⟩ := holds.stored.last enough
  rw [total] at answer delivered
  rw [← List.append_assoc, ← List.take_add, last, List.take_length, List.take_left] at delivered
  exact ⟨answer, delivered⟩

theorem Holds.opened {r : Endpoint kind} {data chunk : List UInt8} {channel : UInt16}
    (free : r.isSending = false) (declared : Chunk.declared kind chunk = data.length)
    (same : 0 < kind.channelWidth → channelOf kind chunk = channel) :
    (r.opened chunk).Holds data 0 0 channel where
  free := free
  expected := rfl
  channel := same
  total := declared
  stored := ⟨rfl, Nat.zero_add _, rfl⟩

/-- Sender and receiver agree on how much of the message has gone over. -/
structure InStep (data : List UInt8) (sender receiver : Endpoint kind) : Prop where
  active : sender.send.active = true
  length : sender.send.length = data.length
  within : sender.send.offset ≤ data.length
  bounded : sender.send.sequence ≤ sender.send.offset
  free : receiver.isSending = false
  opening : sender.send.sequence = 0 →
    sender.send.offset = 0 ∧ receiver.session.expected = 0
  underWay : sender.send.sequence ≠ 0 → sender.send.offset < data.length ∧
    receiver.Holds data sender.send.offset sender.send.sequence sender.session.channel

theorem channelOf_header_of_wide {channel : UInt16} {sequence total : Nat} {rest : List UInt8}
    (wide : 0 < kind.channelWidth) :
    channelOf kind (Chunk.header kind channel sequence total ++ rest) = channel := by
  apply Chunk.channelOf_header
  cases kind <;> first | exact absurd wide (Nat.lt_irrefl 0) | rfl

theorem InStep.receive_eq {data : List UInt8} {sender receiver : Endpoint kind}
    (step : InStep data sender receiver) (short : data.length ≤ messageCapacity)
    (payload : List UInt8) (carries : sender.send.offset < data.length → payload ≠ []) :
    ∃ r : Endpoint kind,
      r.Holds data sender.send.offset sender.send.sequence sender.session.channel ∧
      receiver.receive (sender.messageHeader ++ payload) =
        (.ok (r.store payload).1, (r.store payload).2) := by
  have capacity : messageCapacity = 260 := rfl
  have small : sender.send.sequence < 65536 := by
    have bounded := step.bounded
    have within := step.within
    omega
  have tagged := @Chunk.tag?_header kind sender.session.channel sender.send.sequence data.length
    payload
  have sequence := @Chunk.sequence_header kind _ small sender.session.channel data.length payload
  have carried := @Chunk.payload_header kind _ small sender.session.channel data.length payload
  rw [messageHeader_eq, step.length]
  by_cases first : sender.send.sequence = 0
  · obtain ⟨start, idle⟩ := step.opening first
    rw [first] at tagged sequence carried ⊢
    rw [start] at carries ⊢
    have countable : data.length < 65536 := by omega
    have declared := @Chunk.declared_header kind _ countable sender.session.channel payload
    have whole : 5 ≤ (Chunk.body kind (Chunk.header kind sender.session.channel 0 data.length ++
        payload)).length := by
      rw [Chunk.body_header]
      simp only [List.length_cons, List.length_append, Word.length_big, if_true]
      omega
    refine ⟨receiver.opened _, .opened step.free declared channelOf_header_of_wide, ?_⟩
    have received := receive_first tagged step.free idle sequence whole
      (by rw [declared]; exact short)
      (by rw [declared, carried]; exact carries)
    rw [carried] at received
    exact received
  · obtain ⟨more, holds⟩ := step.underWay first
    refine ⟨receiver, holds, ?_⟩
    have received := receive_next tagged step.free (holds.expected ▸ first)
      (sequence.trans holds.expected.symm)
      (fun wide => (channelOf_header_of_wide wide).trans (holds.channel wide).symm)
      (by rw [carried]; exact carries more)
    rw [carried] at received
    exact received

/-- A chunk is its header, a part of the message and, only where the message ends, padding. -/
theorem InStep.pad_eq {data : List UInt8} {sender receiver : Endpoint kind}
    (step : InStep data sender receiver) :
    ∃ padding, sender.pad (sender.messageHeader ++
        (data.drop sender.send.offset).take sender.nextCount) =
          sender.messageHeader ++ ((data.drop sender.send.offset).take sender.nextCount ++ padding) ∧
      (sender.send.offset + sender.nextCount < data.length → padding = []) := by
  unfold pad
  split
  · refine ⟨_, List.append_assoc .., ?_⟩
    intro more
    have remaining : sender.send.remaining = data.length - sender.send.offset := by
      rw [SendProgress.remaining, step.length]
    have full : sender.nextCount = sender.chunkLength - sender.messageHeader.length := by
      unfold nextCount at more ⊢
      omega
    rw [List.replicate_eq_nil_iff, List.length_append, List.length_take, List.length_drop]
    omega
  · exact ⟨[], by rw [List.append_nil], fun _ => rfl⟩

/-- The next chunk of the sender either leaves both sides in step or ends the message. -/
theorem InStep.next {data : List UInt8} {sender receiver : Endpoint kind}
    (step : InStep data sender receiver) (room : kind.leastChunkLength ≤ sender.chunkLength)
    (short : data.length ≤ messageCapacity) :
    ∃ chunk, sender.nextChunk data = (some chunk, sender.advanced sender.nextCount) ∧
      ((∃ r, receiver.receive chunk = (.ok .needMore, r) ∧
          InStep data (sender.advanced sender.nextCount) r) ∨
        ∃ r, receiver.receive chunk = (.ok (.complete data.length), r) ∧ r.Delivered data ∧
          (sender.advanced sender.nextCount).send.active = false) := by
  have taken := nextChunk_active step.active step.length step.within room
  obtain ⟨-, progress, -, -⟩ := nextChunk_some taken
  have remaining : sender.send.remaining = data.length - sender.send.offset := by
    rw [SendProgress.remaining, step.length]
  have part : ((data.drop sender.send.offset).take sender.nextCount).length = sender.nextCount := by
    rw [List.length_take, List.length_drop]
    unfold nextCount
    omega
  have within : sender.send.offset + sender.nextCount ≤ data.length := by
    have inside := step.within
    unfold nextCount
    omega
  obtain ⟨padding, chunk, unpadded⟩ := step.pad_eq
  obtain ⟨r, holds, received⟩ := step.receive_eq short
    ((data.drop sender.send.offset).take sender.nextCount ++ padding) fun more => by
      rw [← List.length_pos_iff, List.length_append, part]
      omega
  rw [chunk] at taken
  refine ⟨_, taken, ?_⟩
  rw [received]
  by_cases more : sender.send.offset + sender.nextCount < data.length
  · left
    obtain ⟨answer, held⟩ := holds.store_more more
    rw [unpadded more, List.append_nil]
    refine ⟨_, by rw [answer], ?_⟩
    have capacity : messageCapacity = 260 := rfl
    have bounded := step.bounded
    have sequence : nextSequence sender.send.sequence = sender.send.sequence + 1 := by
      unfold nextSequence
      omega
    exact {
      active := by
        simp only [advanced, remaining, decide_eq_true_eq]
        omega
      length := step.length
      within := within
      bounded := by
        simp only [advanced, sequence]
        omega
      free := held.free
      opening := fun zero => by
        simp only [advanced, sequence] at zero
        omega
      underWay := fun _ => ⟨more, held⟩ }
  · right
    have last : sender.send.offset + sender.nextCount = data.length := by omega
    obtain ⟨answer, delivered⟩ := holds.store_last last padding
    refine ⟨_, by rw [answer], delivered, ?_⟩
    simp only [advanced, remaining, decide_eq_false_iff_not]
    omega

theorem InStep.retune {data : List UInt8} {sender receiver : Endpoint kind}
    (step : InStep data sender receiver) (changes : List (LengthChange kind)) :
    InStep data (sender.retune changes) receiver :=
  ⟨step.active, step.length, step.within, step.bounded, step.free, step.opening, step.underWay⟩

end CardLink.Endpoint
