import CardLink.Proofs.Framing.InStep

namespace CardLink.Endpoint

variable {kind : LinkKind}

/-- The answers to a list of chunks, and the endpoint after the last one. -/
def receiveAll (e : Endpoint kind) :
    List (List UInt8) → List (Except ChunkError Received) × Endpoint kind
  | [] => ([], e)
  | chunk :: rest =>
    let (answer, e) := e.receive chunk
    let (answers, e) := e.receiveAll rest
    (answer :: answers, e)

theorem cut_cons {e after : Endpoint kind} {data chunk : List UInt8}
    {changes : Nat → List (LengthChange kind)} {call : Nat}
    (taken : (e.retune (changes call)).nextChunk data = (some chunk, after)) :
    cut data changes call e = chunk :: cut data changes (call + 1) after := by
  rw [cut]
  split
  · rename_i none
    rw [taken] at none
    cases none
  · rename_i some
    rw [taken] at some
    cases some
    rfl

theorem cut_inactive {e : Endpoint kind} {data : List UInt8}
    {changes : Nat → List (LengthChange kind)} {call : Nat} (inactive : e.send.active = false) :
    cut data changes call e = [] := by
  have none : (e.retune (changes call)).nextChunk data = (none, e.retune (changes call)) := by
    simp [nextChunk, inactive]
  rw [cut]
  split
  · rfl
  · rename_i some
    rw [none] at some
    cases some

/-- From any point at which both sides are in step, the rest of the chunks delivers the message. -/
theorem InStep.receiveAll_cut {data : List UInt8} {sender receiver : Endpoint kind}
    {changes : Nat → List (LengthChange kind)} (step : InStep data sender receiver) (call : Nat)
    (room : kind.leastChunkLength ≤ sender.chunkLength)
    (roomy : ∀ later, ∀ change ∈ changes later, change.Roomy sender.layout.ceiling)
    (short : data.length ≤ messageCapacity) :
    ∃ count done, (cut data changes call sender).length = count + 1 ∧
      receiver.receiveAll (cut data changes call sender) =
        (List.replicate count (.ok .needMore) ++ [.ok (.complete data.length)], done) ∧
      done.Delivered data := by
  -- Each call leaves fewer chunks to come, however the chunk length changes in between.
  induction bound : sender.chunksLeft using Nat.strongRecOn generalizing sender receiver call with
  | _ left ih =>
    obtain ⟨room', ceiling⟩ := retune_roomy room (roomy call)
    obtain ⟨chunk, taken, answer⟩ := (step.retune (changes call)).next room' short
    have fewer := chunksLeft_advanced taken
    have same : (sender.retune (changes call)).chunksLeft = left := bound
    rw [same] at fewer
    rw [cut_cons taken]
    simp only [List.length_cons, receiveAll]
    rcases answer with ⟨r, received, inStep⟩ | ⟨r, received, delivered, inactive⟩
    · obtain ⟨count, done, length, answers, delivered⟩ := ih _ fewer inStep (call + 1) room'
        (fun later => ceiling ▸ roomy later) rfl
      refine ⟨count + 1, done, by rw [length], ?_, delivered⟩
      rw [received]
      dsimp only
      rw [answers, List.replicate_succ, List.cons_append]
    · refine ⟨0, r, by rw [cut_inactive inactive]; rfl, ?_, delivered⟩
      rw [cut_inactive inactive, received]
      rfl

theorem beginSend_ok {sender : Endpoint kind} {length : Nat} (free : sender.isSending = false)
    (short : length ≤ 65535) :
    sender.beginSend length = (.ok (), { sender with
      session := { sender.session with lock := { sender.session.lock with sending := true } }
      send := .start length
      ready := false }) := by
  have unlocked : sender.session.lock.sending = false := free
  simp [beginSend, SendLock.acquire, unlocked, Nat.not_lt.mpr short]

/-- A message that is sent arrives: every chunk but the last leaves the receiver waiting, the last
one completes the message, and it is handed over once. Only a free lock is asked of the sender and
only a free lock and no reception under way of the receiver; the chunk length may change before any
call, as long as a first chunk has room. -/
theorem cut_reassembles {sender receiver : Endpoint kind} {data : List UInt8}
    {changes : Nat → List (LengthChange kind)}
    (short : data.length ≤ messageCapacity)
    (room : kind.leastChunkLength ≤ sender.chunkLength)
    (roomy : ∀ call, ∀ change ∈ changes call, change.Roomy sender.layout.ceiling)
    (sendable : sender.isSending = false)
    (free : receiver.isSending = false) (idle : receiver.session.expected = 0) :
    ∃ started count done taken,
      sender.beginSend data.length = (.ok (), started) ∧
      (cut data changes 0 started).length = count + 1 ∧
      receiver.receiveAll (cut data changes 0 started) =
        (List.replicate count (.ok .needMore) ++ [.ok (.complete data.length)], done) ∧
      done.message = data ∧
      done.takeComplete = (some data.length, taken) ∧
      taken.takeComplete = (none, taken) := by
  have capacity : messageCapacity = 260 := rfl
  have begun := beginSend_ok sendable (by omega : data.length ≤ 65535)
  have step : InStep data (sender.beginSend data.length).2 receiver := by
    rw [begun]
    exact ⟨rfl, rfl, Nat.zero_le _, Nat.le_refl _, free, fun _ => ⟨rfl, idle⟩,
      fun later => absurd rfl later⟩
  rw [begun] at step
  obtain ⟨count, done, length, answers, delivered⟩ := step.receiveAll_cut 0 room roomy short
  refine ⟨_, count, done, { done with ready := false }, begun, length, answers,
    delivered.message, ?_, rfl⟩
  simp only [takeComplete, delivered.ready, delivered.messageLength, if_true]

/-- A message of forty bytes in chunks of sixty, then of six, then of sixty again, to a receiver
that still holds an older message. -/
theorem cut_reassembles_retuned :
    let sender : Endpoint .negotiated := { layout := .negotiable 20 156, session.channel := 7 }
    let receiver : Endpoint .negotiated :=
      { layout := .negotiable 20 60, buffer := List.replicate 260 3, messageLength := 9,
        ready := true }
    let data : List UInt8 := List.replicate 40 0xA5
    let changes : Nat → List (LengthChange .negotiated) :=
      fun call => if call = 1 then [.exchanged 0] else [.reverted 60]
    (data.length ≤ messageCapacity ∧ LinkKind.negotiated.leastChunkLength ≤ sender.chunkLength ∧
      (∀ call, ∀ change ∈ changes call, change.Roomy sender.layout.ceiling) ∧
      sender.isSending = false ∧ receiver.isSending = false ∧ receiver.session.expected = 0) ∧
    ∃ started count done taken,
      sender.beginSend data.length = (.ok (), started) ∧
      (cut data changes 0 started).length = count + 1 ∧
      receiver.receiveAll (cut data changes 0 started) =
        (List.replicate count (.ok .needMore) ++ [.ok (.complete data.length)], done) ∧
      done.message = data ∧
      done.takeComplete = (some data.length, taken) ∧
      taken.takeComplete = (none, taken) := by
  intro sender receiver data changes
  have short : data.length ≤ messageCapacity := by decide
  have room : LinkKind.negotiated.leastChunkLength ≤ sender.chunkLength := by decide
  have roomy : ∀ call, ∀ change ∈ changes call, change.Roomy sender.layout.ceiling := by
    intro call change member
    simp only [changes] at member
    split at member <;> cases List.mem_singleton.mp member <;> decide
  exact ⟨⟨short, room, roomy, rfl, rfl, rfl⟩, cut_reassembles short room roomy rfl rfl rfl⟩

end CardLink.Endpoint
