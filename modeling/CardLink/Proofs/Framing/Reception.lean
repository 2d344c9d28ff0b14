import CardLink.Proofs.Framing.Chunk

namespace CardLink.Endpoint

variable {kind : LinkKind}

/-- The endpoint at the start of the reception that this first chunk opens. -/
def opened (e : Endpoint kind) (chunk : List UInt8) : Endpoint kind :=
  { e with
    session := e.session.start (Chunk.declared kind chunk) (channelOf kind chunk)
    ready := false }

/-- Every answer to a chunk, with the endpoint that it leaves behind. A message chunk is stored
only by `first` and `next`, whose premises are all that the endpoint checks. -/
inductive Reception (e : Endpoint kind) (chunk : List UInt8) :
    Except ChunkError Received → Endpoint kind → Prop
  | refused (error : ChunkError) : Reception e chunk (.error error) e.restart
  | unknown (untagged : Chunk.tag? kind chunk = none) : Reception e chunk (.ok .ignored) e
  | allocated (tagged : Chunk.tag? kind chunk = some .allocateChannel) :
      Reception e chunk (.ok (.channelRequest (channelOf kind chunk))) e
  | dropped (tagged : Chunk.tag? kind chunk = some .apdu) (sending : e.isSending = true) :
      Reception e chunk (.ok .dropped) e
  | restarted (tagged : Chunk.tag? kind chunk = some .init) :
      Reception e chunk (.ok (e.restart.answer (e.echo chunk)).1)
        (e.restart.answer (e.echo chunk)).2
  | aborted (tagged : Chunk.tag? kind chunk = some .abort) :
      Reception e chunk (.ok .reset) e.restart
  | answered (reply : List UInt8)
      (tagged : Chunk.tag? kind chunk = some .version ∨ Chunk.tag? kind chunk = some .echo ∨
        Chunk.tag? kind chunk = some .mtu)
      (control : Chunk.tag? kind reply ≠ some .apdu) :
      Reception e chunk (.ok (e.answer reply).1) (e.answer reply).2
  | first (tagged : Chunk.tag? kind chunk = some .apdu) (free : e.isSending = false)
      (idle : e.session.expected = 0) (opening : Chunk.sequence kind chunk = 0)
      (whole : 5 ≤ (Chunk.body kind chunk).length)
      (fits : Chunk.declared kind chunk ≤ messageCapacity)
      (carries : 0 < Chunk.declared kind chunk → Chunk.payload kind chunk ≠ []) :
      Reception e chunk (.ok ((e.opened chunk).store (Chunk.payload kind chunk)).1)
        ((e.opened chunk).store (Chunk.payload kind chunk)).2
  | next (tagged : Chunk.tag? kind chunk = some .apdu) (free : e.isSending = false)
      (underWay : e.session.expected ≠ 0)
      (inOrder : Chunk.sequence kind chunk = e.session.expected)
      (sameChannel : 0 < kind.channelWidth → channelOf kind chunk = e.session.channel)
      (carries : Chunk.payload kind chunk ≠ []) :
      Reception e chunk (.ok (e.store (Chunk.payload kind chunk)).1)
        (e.store (Chunk.payload kind chunk)).2

theorem Reception.of_eq {e after : Endpoint kind} {chunk : List UInt8} {received : Received}
    {pair : Received × Endpoint kind} (reception : Reception e chunk (.ok pair.1) pair.2)
    (same : (.ok pair : Except ChunkError (Received × Endpoint kind)) = .ok (received, after)) :
    Reception e chunk (.ok received) after := by
  injection same with same
  rw [same] at reception
  exact reception

theorem reception_of_receiveMessage {e after : Endpoint kind} {chunk : List UInt8}
    {received : Received} (tagged : Chunk.tag? kind chunk = some .apdu)
    (free : e.isSending = false)
    (stored : e.receiveMessage (channelOf kind chunk) (Chunk.body kind chunk) =
      .ok (received, after)) : Reception e chunk (.ok received) after := by
  unfold receiveMessage at stored
  split at stored
  · rename_i tag high low rest fields
    have sequence := Chunk.sequence_eq fields
    dsimp only at stored
    split at stored
    · cases stored
    rename_i inOrder
    rw [← sequence, Decidable.not_not] at inOrder
    rw [← sequence] at stored
    by_cases opening : Chunk.sequence kind chunk = 0
    · rw [if_pos opening] at stored
      split at stored
      · rename_i high' low' payload
        have declared := Chunk.declared_eq fields
        have carried := Chunk.payload_of_first opening fields
        rw [← declared, ← carried] at stored
        split at stored
        · cases stored
        split at stored
        · cases stored
        rename_i fits carries
        refine .of_eq ?_ stored
        refine .first tagged free (inOrder.symm.trans opening) opening ?_ (Nat.le_of_not_lt fits) ?_
        · simp only [fields, List.length_cons]; omega
        · exact fun positive empty => carries ⟨positive, empty⟩
      · cases stored
    · rw [if_neg opening] at stored
      have carried := Chunk.payload_of_next opening fields
      rw [← carried] at stored
      split at stored
      · cases stored
      split at stored
      · cases stored
      rename_i channel carries
      refine .of_eq ?_ stored
      refine .next tagged free (fun idle => opening (inOrder.trans idle)) inOrder ?_ carries
      exact fun wide => Decidable.not_not.mp fun other => channel ⟨wide, other⟩
  · cases stored

theorem tag?_controlHeader (e : Endpoint kind) (channel : UInt16) (tag : UInt8)
    (rest : List UInt8) : Chunk.tag? kind (e.controlHeader channel tag ++ rest) =
      kind.classify tag := by
  cases kind <;> rfl

/-- An echo may lose its tag to the chunk length, but never gets another one. -/
theorem echo_tag {e : Endpoint kind} {chunk : List UInt8} {tag : Tag}
    (other : Chunk.tag? kind chunk ≠ some tag) : Chunk.tag? kind (e.echo chunk) ≠ some tag := by
  unfold Chunk.tag? Chunk.body Endpoint.echo at *
  rw [List.drop_take, List.head?_take]
  split
  · exact (Option.some_ne_none tag).symm
  · exact other

theorem reception_of_perform {e after : Endpoint kind} {tag : Tag} {chunk : List UInt8}
    {received : Received} (tagged : Chunk.tag? kind chunk = some tag)
    (performed : e.perform tag (channelOf kind chunk) chunk (Chunk.body kind chunk) =
      .ok (received, after)) : Reception e chunk (.ok received) after := by
  cases tag with
  | apdu =>
    simp only [perform] at performed
    by_cases sending : e.isSending = true
    · rw [if_pos sending] at performed
      cases performed
      exact .dropped tagged sending
    · rw [if_neg sending] at performed
      exact reception_of_receiveMessage tagged (Bool.not_eq_true _ ▸ sending) performed
  | init =>
    simp only [perform] at performed
    split at performed
    · cases performed
    · exact .of_eq (.restarted tagged) performed
  | abort =>
    cases performed
    exact .aborted tagged
  | version =>
    simp only [perform] at performed
    split at performed
    · cases performed
    · refine .of_eq (.answered _ (.inl tagged) ?_) performed
      rw [tag?_controlHeader]
      cases kind <;> decide
  | echo =>
    simp only [perform] at performed
    split at performed
    · cases performed
    · exact .of_eq (.answered _ (.inr (.inl tagged)) (echo_tag (by simp [tagged]))) performed
  | mtu =>
    refine .of_eq (.answered _ (.inr (.inr tagged)) ?_) performed
    rw [tag?_controlHeader]
    cases kind <;> decide
  | allocateChannel =>
    cases performed
    exact .allocated tagged

theorem reception_of_dispatch {e after : Endpoint kind} {chunk : List UInt8} {received : Received}
    (dispatched : e.dispatch chunk = .ok (received, after)) :
    Reception e chunk (.ok received) after := by
  unfold dispatch at dispatched
  split at dispatched
  · cases dispatched
  · rename_i byte rest shape
    have body : Chunk.body kind chunk = byte :: rest := shape
    have tag : Chunk.tag? kind chunk = kind.classify byte := by
      simp only [Chunk.tag?, body, List.head?_cons, Option.bind_some]
    split at dispatched
    · rename_i known classified
      rw [← body] at dispatched
      exact reception_of_perform (tag.trans classified) dispatched
    · rename_i classified
      split at dispatched
      · cases dispatched
        exact .unknown (tag.trans classified)
      · cases dispatched

/-- Every chunk leads to one of the cases of `Reception`. -/
theorem receive_reception (e : Endpoint kind) (chunk : List UInt8) :
    Reception e chunk (e.receive chunk).1 (e.receive chunk).2 := by
  unfold receive
  split
  · rename_i received after dispatched
    exact reception_of_dispatch dispatched
  · rename_i error _
    exact .refused error

theorem receive_of_message {e after : Endpoint kind} {chunk : List UInt8} {received : Received}
    (tagged : Chunk.tag? kind chunk = some .apdu) (free : e.isSending = false)
    (stored : e.receiveMessage (channelOf kind chunk) (Chunk.body kind chunk) =
      .ok (received, after)) : e.receive chunk = (.ok received, after) := by
  obtain ⟨byte, head, classified⟩ := Option.bind_eq_some_iff.mp tagged
  obtain ⟨rest, body⟩ := List.head?_eq_some_iff.mp head
  have shape : chunk.drop kind.channelWidth = byte :: rest := body
  have dispatched : e.dispatch chunk = .ok (received, after) := by
    simp only [dispatch, shape, classified, perform, free]
    rw [← body]
    simpa using stored
  simp only [receive, dispatched]

/-- A first chunk that fits opens a reception, whatever was received before. -/
theorem receive_first {e : Endpoint kind} {chunk : List UInt8}
    (tagged : Chunk.tag? kind chunk = some .apdu) (free : e.isSending = false)
    (idle : e.session.expected = 0) (opening : Chunk.sequence kind chunk = 0)
    (whole : 5 ≤ (Chunk.body kind chunk).length)
    (fits : Chunk.declared kind chunk ≤ messageCapacity)
    (carries : 0 < Chunk.declared kind chunk → Chunk.payload kind chunk ≠ []) :
    e.receive chunk = (.ok ((e.opened chunk).store (Chunk.payload kind chunk)).1,
      ((e.opened chunk).store (Chunk.payload kind chunk)).2) := by
  apply receive_of_message tagged free
  obtain ⟨tag, high, low, high', low', rest, fields⟩ := Chunk.first_fields_of_length whole
  have sequence := Chunk.sequence_eq fields
  have declared := Chunk.declared_eq fields
  have payload := Chunk.payload_of_first opening fields
  rw [opening] at sequence
  have small : ¬messageCapacity < Chunk.declared kind chunk := Nat.not_lt.mpr fits
  have full : ¬(0 < Chunk.declared kind chunk ∧ rest = []) := by
    rw [← payload]
    exact fun both => carries both.1 both.2
  simp only [receiveMessage, fields, ← sequence, ← declared, idle, small, full, payload, opened,
    ne_eq, not_true, if_true, if_false]

theorem receive_next {e : Endpoint kind} {chunk : List UInt8}
    (tagged : Chunk.tag? kind chunk = some .apdu) (free : e.isSending = false)
    (underWay : e.session.expected ≠ 0)
    (inOrder : Chunk.sequence kind chunk = e.session.expected)
    (sameChannel : 0 < kind.channelWidth → channelOf kind chunk = e.session.channel)
    (carries : Chunk.payload kind chunk ≠ []) :
    e.receive chunk = (.ok (e.store (Chunk.payload kind chunk)).1,
      (e.store (Chunk.payload kind chunk)).2) := by
  have later : Chunk.sequence kind chunk ≠ 0 := inOrder ▸ underWay
  have whole : 3 ≤ (Chunk.body kind chunk).length := by
    have long := List.length_pos_iff.mpr carries
    simp only [Chunk.payload, LinkKind.headerLength, later, if_false, List.length_drop] at long
    omega
  apply receive_of_message tagged free
  obtain ⟨tag, high, low, rest, fields⟩ := Chunk.fields_of_length whole
  have sequence := Chunk.sequence_eq fields
  have payload := Chunk.payload_of_next later fields
  rw [inOrder] at sequence
  have same : ¬(0 < kind.channelWidth ∧ channelOf kind chunk ≠ e.session.channel) :=
    fun both => both.2 (sameChannel both.1)
  rw [payload] at carries
  simp only [receiveMessage, fields, ← sequence, underWay, same, carries, payload, ne_eq, not_true,
    if_false]

end CardLink.Endpoint
