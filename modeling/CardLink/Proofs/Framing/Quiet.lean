import CardLink.Proofs.Framing.Offering
import CardLink.Proofs.Framing.RoundTrip
import CardLink.Proofs.Framing.Sending

namespace CardLink

variable {kind : LinkKind}

namespace Endpoint

variable {e : Endpoint kind}

/-- Nobody is sending, no transmit is on the stack and no reply is held. -/
structure Quiet (e : Endpoint kind) : Prop where
  lock : e.session.lock = {}
  held : e.held = none

theorem Quiet.free (quiet : e.Quiet) : e.isSending = false := by
  rw [isSending, quiet.lock]

theorem Quiet.queueReply (quiet : e.Quiet) (reply : List UInt8) :
    e.queueReply reply = (some (e.pad reply), e) := by
  simp [Endpoint.queueReply, SendLock.inTransmit, quiet.lock]

theorem Quiet.answer (quiet : e.Quiet) (reply : List UInt8) :
    e.answer reply = (.reply (e.pad reply), e) := by
  rw [Endpoint.answer, quiet.queueReply]

theorem Quiet.restart (quiet : e.Quiet) : e.restart.Quiet where
  lock := by
    show e.session.lock.abort = {}
    rw [quiet.lock]
    rfl
  held := quiet.held

theorem Quiet.store (quiet : e.Quiet) (payload : List UInt8) : (e.store payload).2.Quiet := by
  simp only [Endpoint.store]
  split <;> exact ⟨quiet.lock, quiet.held⟩

theorem Quiet.takeComplete (quiet : e.Quiet) : e.takeComplete.2.Quiet := by
  unfold Endpoint.takeComplete
  split
  · exact ⟨quiet.lock, quiet.held⟩
  · exact quiet

theorem Quiet.resetReception (quiet : e.Quiet) :
    ({ e with session := e.session.resetReception } : Endpoint kind).Quiet :=
  ⟨quiet.lock, quiet.held⟩

/-- What comes in is answered at once and starts no send. -/
theorem Quiet.receive (quiet : e.Quiet) (chunk : List UInt8) : (e.receive chunk).2.Quiet := by
  have reception := e.receive_reception chunk
  generalize (e.receive chunk).1 = answer at reception
  generalize (e.receive chunk).2 = after at *
  cases reception with
  | refused | aborted => exact quiet.restart
  | unknown | allocated | dropped => exact quiet
  | restarted =>
    rw [quiet.restart.answer]
    exact quiet.restart
  | answered reply =>
    rw [quiet.answer]
    exact quiet
  | first =>
    have opened : (e.opened chunk).Quiet := ⟨quiet.lock, quiet.held⟩
    exact opened.store _
  | next => exact quiet.store _

theorem Quiet.receiveAll (quiet : e.Quiet) (chunks : List (List UInt8)) :
    (e.receiveAll chunks).2.Quiet := by
  induction chunks generalizing e with
  | nil => exact quiet
  | cons chunk rest ih => exact ih (quiet.receive chunk)

theorem receiveAll_layout (e : Endpoint kind) (chunks : List (List UInt8)) :
    (e.receiveAll chunks).2.layout = e.layout := by
  induction chunks generalizing e with
  | nil => rfl
  | cons chunk rest ih => exact (ih _).trans (e.receive_keepsSend chunk).layout

/-- The send lock is taken, and no reply waits for its release. -/
structure Locked (e : Endpoint kind) : Prop where
  sending : e.isSending = true
  held : e.held = none

theorem begun_locked (unheld : e.held = none) (length : Nat) : (e.begun length).Locked :=
  ⟨rfl, unheld⟩

theorem Locked.finishSend (locked : e.Locked) : e.finishSend.Quiet :=
  ⟨rfl, locked.held⟩

theorem Locked.nextChunk (locked : e.Locked) (data : List UInt8) : (e.nextChunk data).2.Locked where
  sending := (e.nextChunk_isSending data).trans locked.sending
  held := (e.nextChunk_held data).trans locked.held

/-- A send that is not cancelled can enter a transmit, and then has the same chunks left. -/
theorem enterTransmit_sending (sending : e.isSending = true) :
    ∃ inside, e.enterTransmit = (.ok (), inside) ∧ inside.leaveTransmit.isSending = true ∧
      e.CutsAlike inside.leaveTransmit ∧ inside.leaveTransmit.held = e.held := by
  have locked : e.session.lock.sending = true := sending
  have entered : e.enterTransmit = (.ok (), { e with session := { e.session with
      lock := { sending := true, depth := min 255 (e.session.lock.depth + 1) } } }) := by
    simp only [enterTransmit, SendLock.enter, locked, if_true]
  exact ⟨_, entered, rfl, ⟨rfl, rfl, rfl⟩, rfl⟩

/-- A transmit can be entered, and once it is left the same chunks are still to be cut off. -/
theorem Locked.transmit (locked : e.Locked) :
    ∃ inside, e.enterTransmit = (.ok (), inside) ∧ inside.leaveTransmit.Locked ∧
      e.CutsAlike inside.leaveTransmit := by
  obtain ⟨inside, entered, sending, alike, held⟩ := enterTransmit_sending locked.sending
  exact ⟨inside, entered, ⟨sending, held.trans locked.held⟩, alike⟩

theorem flushDeferred_unheld (held : e.held = none) (sink : Sink) :
    e.flushDeferred sink = (e, sink) := by
  have same : { e with held := none } = e := by
    obtain ⟨_, _, _, _, _, _, _⟩ := e
    cases held
    rfl
  unfold flushDeferred takeDeferred
  by_cases inTransmit : e.session.lock.inTransmit = true
  · simp only [inTransmit, if_true]
  · simp only [inTransmit, Bool.false_eq_true, if_false, held, same]

/-- The chunks of a message at a chunk length that stays as it is. -/
def pieces (e : Endpoint kind) (data : List UInt8) : List (List UInt8) :=
  cut data (fun _ => []) 0 e

theorem cut_none {after : Endpoint kind} {data : List UInt8} {call : Nat}
    (last : e.nextChunk data = (none, after)) : cut data (fun _ => []) call e = [] := by
  rw [cut]
  split
  · rfl
  · rename_i next
    cases last.symm.trans next

theorem cut_some {after : Endpoint kind} {data chunk : List UInt8} {call : Nat}
    (next : e.nextChunk data = (some chunk, after)) :
    cut data (fun _ => []) call e = chunk :: cut data (fun _ => []) (call + 1) after :=
  have unchanged : (e.retune []).nextChunk data = (some chunk, after) := next
  cut_cons unchanged

/-- No call changes the chunk length, so that it does not matter how many there were. -/
theorem cut_unchanged (data : List UInt8) (call : Nat) (e : Endpoint kind) :
    cut data (fun _ => []) call e = e.pieces data := by
  suffices same : ∀ other, cut data (fun _ => []) call e = cut data (fun _ => []) other e from
    same 0
  induction bound : e.chunksLeft using Nat.strongRecOn generalizing e call with
  | _ left ih =>
    intro other
    rcases next : e.nextChunk data with ⟨_ | chunk, after⟩
    · rw [cut_none next, cut_none next]
    · have fewer := chunksLeft_advanced next
      rw [cut_some next, cut_some next, ih _ (bound ▸ fewer) (call + 1) after rfl (other + 1)]

theorem pieces_some {after : Endpoint kind} {data chunk : List UInt8}
    (next : e.nextChunk data = (some chunk, after)) :
    e.pieces data = chunk :: after.pieces data := by
  rw [pieces, cut_some next, cut_unchanged]

theorem CutsAlike.pieces {a b : Endpoint kind} (alike : a.CutsAlike b) (data : List UInt8) :
    a.pieces data = b.pieces data := by
  induction bound : a.chunksLeft using Nat.strongRecOn generalizing a b with
  | _ left ih =>
    obtain ⟨same, still⟩ := alike.nextChunk data
    rcases first : a.nextChunk data with ⟨_ | chunk, after⟩
    all_goals
      rcases second : b.nextChunk data with ⟨other, after'⟩
      rw [first, second] at same still
      obtain rfl := same
    · rw [Endpoint.pieces, cut_none first, Endpoint.pieces, cut_none second]
    · have fewer := chunksLeft_advanced first
      rw [pieces_some first, pieces_some second, ih _ (bound ▸ fewer) still rfl]

/-- All that is left of the message goes out. -/
theorem Locked.transmitChunks {steps : Nat} (locked : e.Locked) (data : List UInt8)
    (enough : e.chunksLeft ≤ steps) (sink : Sink) :
    ∃ after, transmitChunks data steps e sink =
        ((sink.transmitAll (e.pieces data)).1, after, (sink.transmitAll (e.pieces data)).2) ∧
      after.Locked ∧ after.layout = e.layout := by
  induction steps generalizing e sink with
  | zero =>
    have inactive : e.send.active = false := by
      unfold chunksLeft at enough
      split at enough <;> simp_all
    rw [pieces, cut_inactive inactive]
    exact ⟨e, rfl, locked, rfl⟩
  | succ steps ih =>
    have further := locked.nextChunk data
    have layout := e.nextChunk_layout data
    rcases next : e.nextChunk data with ⟨_ | chunk, after⟩ <;> rw [next] at further layout
    · rw [pieces, cut_none next]
      refine ⟨after, ?_, further, layout⟩
      simp only [Endpoint.transmitChunks, next, Sink.transmitAll]
    · have fewer : after.chunksLeft < e.chunksLeft := chunksLeft_advanced next
      obtain ⟨inside, enter, left, alike⟩ := further.transmit
      rw [pieces_some next, alike.pieces]
      simp only [Endpoint.transmitChunks, next, enter, Sink.transmitAll,
        flushDeferred_unheld left.held]
      rcases sink.transmit chunk with ⟨error | ⟨⟩, out⟩
      · exact ⟨inside.leaveTransmit, rfl, left, alike.layout.symm.trans layout⟩
      · have fewer' : inside.leaveTransmit.chunksLeft < e.chunksLeft := by
          rw [chunksLeft, ← alike.send]
          exact fewer
        obtain ⟨last, sent, done, same⟩ := ih left (by omega) out
        exact ⟨last, sent, done, same.trans (alike.layout.symm.trans layout)⟩

/-- An endpoint that sends nothing and holds no reply sends a message in pieces and is quiet from
then on, also if a transmit was left on the stack before. -/
theorem sendAll_pieces {data : List UInt8} (free : e.isSending = false) (unheld : e.held = none)
    (short : data.length ≤ 65535) (sink : Sink) :
    ∃ after, e.sendAll data sink =
        ((sink.transmitAll ((e.begun data.length).pieces data)).1, after,
          (sink.transmitAll ((e.begun data.length).pieces data)).2) ∧
      after.Quiet ∧ after.send = {} ∧ after.layout = e.layout := by
  have enough : (e.begun data.length).chunksLeft ≤ data.length + 1 := Nat.le_refl _
  obtain ⟨last, sent, locked, layout⟩ :=
    (begun_locked unheld data.length).transmitChunks data enough sink
  have begun : e.beginSend data.length = (.ok (), e.begun data.length) := beginSend_ok free short
  have finished := locked.finishSend
  refine ⟨last.finishSend, ?_, finished, rfl, layout⟩
  simp only [Endpoint.sendAll, begun, sent, flushDeferred_unheld finished.held]

theorem Quiet.sendAll {data : List UInt8} (quiet : e.Quiet) (short : data.length ≤ 65535)
    (sink : Sink) :
    ∃ after, e.sendAll data sink =
        ((sink.transmitAll ((e.begun data.length).pieces data)).1, after,
          (sink.transmitAll ((e.begun data.length).pieces data)).2) ∧
      after.Quiet ∧ after.layout = e.layout := by
  obtain ⟨after, sent, still, -, layout⟩ := sendAll_pieces quiet.free quiet.held short sink
  exact ⟨after, sent, still, layout⟩

theorem sendAll_long {data : List UInt8} (e : Endpoint kind) (long : 65535 < data.length)
    (sink : Sink) : e.sendAll data sink = (.error (.tooLong data.length), e, sink) := by
  simp only [Endpoint.sendAll, beginSend, long, if_true]

/-- Every piece opens with a header on the channel of the sender; where pieces are padded they
have the chunk length. -/
theorem mem_pieces {data chunk : List UInt8} (member : chunk ∈ e.pieces data) :
    ∃ sequence rest,
      chunk = Chunk.header kind e.session.channel sequence e.send.length ++ rest ∧
      (kind.padded = true → kind.leastChunkLength ≤ e.chunkLength →
        chunk.length = e.chunkLength) := by
  induction bound : e.chunksLeft using Nat.strongRecOn generalizing e with
  | _ left ih =>
    rcases next : e.nextChunk data with ⟨_ | piece, after⟩
    · rw [pieces, cut_none next] at member
      cases member
    rw [pieces_some next] at member
    have fewer : after.chunksLeft < left := bound ▸ chunksLeft_advanced next
    obtain ⟨-, -, cutOff, rfl⟩ := nextChunk_some next
    rcases List.mem_cons.mp member with rfl | later
    · have header : e.messageHeader.length ≤ kind.channelWidth + 5 := by
        rw [messageHeader_eq, Chunk.header_length]
        unfold LinkKind.headerLength
        split <;> omega
      have part : ((data.drop e.send.offset).take e.nextCount).length ≤
          e.chunkLength - e.messageHeader.length := by
        rw [List.length_take]
        unfold nextCount
        omega
      refine ⟨e.send.sequence, ?_⟩
      rw [cutOff, pad, ← messageHeader_eq]
      split
      · refine ⟨_, List.append_assoc .., fun _ room => ?_⟩
        unfold LinkKind.leastChunkLength at room
        simp only [List.length_append, List.length_replicate] at part ⊢
        omega
      · rename_i bare
        exact ⟨_, rfl, fun padded => absurd padded bare⟩
    · exact ih _ fewer (e := e.advanced e.nextCount) later rfl

/-- A sender with chunks left stops early only because no byte fits into the next one. -/
theorem nextChunk_stuck {after : Endpoint kind} {data : List UInt8}
    (stopped : e.nextChunk data = (none, after)) (active : e.send.active = true)
    (length : e.send.length = data.length) (within : e.send.offset ≤ data.length) :
    e.nextCount = 0 ∧ 0 < e.send.remaining := by
  unfold nextChunk at stopped
  rw [if_pos active] at stopped
  dsimp only at stopped
  split at stopped
  · assumption
  · split at stopped
    · rename_i long
      unfold SendProgress.remaining at long
      omega
    · cases stopped

/-- Only a message with bytes has no pieces, where no chunk has room for one of them. -/
theorem pieces_begun_eq_nil (e : Endpoint kind) (data : List UInt8) :
    (e.begun data.length).pieces data = [] ↔
      data ≠ [] ∧ e.chunkLength < kind.leastChunkLength := by
  have header : (e.begun data.length).messageHeader.length = kind.channelWidth + 5 := by
    rw [messageHeader_eq, Chunk.header_length]
    rfl
  have count : (e.begun data.length).nextCount =
      min (e.chunkLength - (kind.channelWidth + 5)) data.length := by
    rw [← header]
    rfl
  have remaining : (e.begun data.length).send.remaining = data.length := rfl
  rw [← List.length_pos_iff, LinkKind.leastChunkLength]
  rcases next : (e.begun data.length).nextChunk data with ⟨_ | chunk, after⟩
  · obtain ⟨full, more⟩ := nextChunk_stuck next rfl rfl (Nat.zero_le _)
    rw [pieces, cut_none next]
    refine iff_of_true rfl ?_
    omega
  · obtain ⟨-, progress, -, -⟩ := nextChunk_some next
    rw [pieces_some next]
    refine iff_of_false (List.cons_ne_nil _ _) ?_
    omega

/-- The pieces of a message deliver it to a receiver that waits for a first chunk. -/
theorem receiveAll_pieces {receiver : Endpoint kind} {data : List UInt8}
    (short : data.length ≤ messageCapacity) (room : kind.leastChunkLength ≤ e.chunkLength)
    (free : receiver.isSending = false) (idle : receiver.session.expected = 0) :
    ∃ count done, ((e.begun data.length).pieces data).length = count + 1 ∧
      receiver.receiveAll ((e.begun data.length).pieces data) =
        (List.replicate count (.ok .needMore) ++ [.ok (.complete data.length)], done) ∧
      done.Delivered data := by
  have step : InStep data (e.begun data.length) receiver :=
    ⟨rfl, rfl, Nat.zero_le _, Nat.le_refl _, free, fun _ => ⟨rfl, idle⟩,
      fun later => absurd rfl later⟩
  exact step.receiveAll_cut 0 room (fun _ _ member => nomatch member) short

end Endpoint

end CardLink
