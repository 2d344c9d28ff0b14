import CardLink.Proofs.Framing.Completion
import CardLink.UsbDevice

namespace CardLink

variable {kind : LinkKind}

/-- The event reports a message as complete. -/
def Event.Completes (event : Event kind) : Prop :=
  ∃ total, event.outcome = .received (.ok (.complete total))

/-- The bytes of the receptions begun so far, the latest first, once this chunk is stored as well:
with sequence zero it begins one, with any other it goes on with the latest. -/
def Chunk.gather (kind : LinkKind) (begun : List (List UInt8)) (chunk : List UInt8) :
    List (List UInt8) :=
  match begun with
  | current :: older =>
    if Chunk.sequence kind chunk = 0 then Chunk.payload kind chunk :: begun
    else (current ++ Chunk.payload kind chunk) :: older
  | [] => [Chunk.payload kind chunk]

/-- The receptions that these events have begun, the latest first, each with its bytes. -/
def begunReceptions (events : List (Event kind)) : List (List UInt8) :=
  (storedChunks events).foldl (Chunk.gather kind) []

/-- The byte that the latest of the receptions to come this far has put there. -/
def byteAt (begun : List (List UInt8)) (position : Nat) : Option UInt8 :=
  begun.findSome? fun bytes => bytes[position]?

/-- Within the message these receptions have put down nothing, or its own bytes. -/
def Spares (begun : List (List UInt8)) (message : List UInt8) : Prop :=
  ∀ position < message.length,
    byteAt begun position = none ∨ byteAt begun position = message[position]?

instance (begun : List (List UInt8)) (message : List UInt8) : Decidable (Spares begun message) :=
  inferInstanceAs (Decidable (∀ position < message.length,
    byteAt begun position = none ∨ byteAt begun position = message[position]?))

/-- The message completed by the last of these events is a reassembled one. What is left of it after
later events is as long, and it is all of it exactly where the receptions begun by then spare it. -/
structure Kept (events later : List (Event kind)) (total : Nat) (message left : List UInt8) :
    Prop where
  reassembled : ∃ older since, events = older ++ since ∧ Reassembled since message total
  length : left.length = message.length
  kept : left = message ↔ Spares (begunReceptions later) message

theorem byteAt_cons (bytes : List UInt8) (begun : List (List UInt8)) (position : Nat) :
    byteAt (bytes :: begun) position = bytes[position]?.or (byteAt begun position) := by
  unfold byteAt
  rw [List.findSome?_cons]
  cases bytes[position]? <;> rfl

theorem getElem?_overwrite {bytes : List UInt8} {start : Nat} (within : start ≤ bytes.length)
    (part : List UInt8) (position : Nat) :
    (overwrite bytes start part)[position]? =
      if position < start then bytes[position]?
      else if position < start + part.length then part[position - start]?
      else bytes[position]? := by
  have front : (bytes.take start).length = start := List.length_take_of_le within
  unfold overwrite
  split
  · rename_i before
    rw [List.append_assoc, List.getElem?_append_left (by omega), List.getElem?_take_of_lt before]
  · split
    · rw [List.append_assoc, List.getElem?_append_right (by omega), front,
        List.getElem?_append_left (by omega)]
    · rw [List.getElem?_append_right (by rw [List.length_append]; omega), List.length_append,
        front, List.getElem?_drop]
      congr 1
      omega

namespace Endpoint

/-- The buffer shows the last completed message, with what later receptions have put over it. -/
structure Shows (e : Endpoint kind) (bytes : List UInt8) (begun : List (List UInt8)) : Prop where
  messageLength : e.messageLength = bytes.length
  shown : ∀ position < bytes.length,
    e.buffer[position]? = (byteAt begun position).or bytes[position]?
  underWay : e.session.expected ≠ 0 → ∃ current older, begun = current :: older ∧
    e.session.cursor = current.length ∧ current.length ≤ e.buffer.length

variable {e after : Endpoint kind} {bytes current payload chunk : List UInt8}
  {begun older : List (List UInt8)} {total : Nat}

theorem Shows.same (shows : e.Shows bytes begun) (same : e.SameReception after) :
    after.Shows bytes begun where
  messageLength := same.messageLength.trans shows.messageLength
  shown := same.buffer ▸ shows.shown
  underWay := by
    rw [same.expected, same.cursor, same.buffer]
    exact shows.underWay

/-- A reception that is dropped leaves its bytes where they are. -/
theorem Shows.dropped (shows : e.Shows bytes begun) (buffer : after.buffer = e.buffer)
    (messageLength : after.messageLength = e.messageLength) (idle : after.session.expected = 0) :
    after.Shows bytes begun where
  messageLength := messageLength.trans shows.messageLength
  shown := buffer ▸ shows.shown
  underWay := (absurd idle ·)

theorem short_of_needMore (waiting : (e.store payload).1 = .needMore) :
    payload.length < e.session.remaining := by
  refine Nat.lt_of_not_le fun enough => ?_
  rw [store_complete enough] at waiting
  cases waiting

theorem Shows.store (shows : e.Shows bytes (current :: older))
    (cursor : e.session.cursor = current.length) (within : current.length ≤ e.buffer.length)
    (waiting : (e.store payload).1 = .needMore) :
    (e.store payload).2.Shows bytes ((current ++ payload) :: older) := by
  rw [store_needMore (short_of_needMore waiting), cursor]
  refine ⟨shows.messageLength, fun position inside => ?_, fun _ => ⟨_, _, rfl, ?_, ?_⟩⟩
  · have before := shows.shown position inside
    rw [byteAt_cons] at before ⊢
    dsimp only
    rw [getElem?_overwrite within]
    split
    · rename_i front
      rw [before, List.getElem?_append_left front]
    · rename_i beyond
      rw [List.getElem?_append_right (Nat.le_of_not_lt beyond)]
      split
      · rename_i covered
        rw [List.getElem?_eq_getElem (by omega), Option.some_or, Option.some_or]
      · rename_i uncovered
        have past : payload[position - current.length]? = none :=
          List.getElem?_eq_none (by omega)
        have short : current[position]? = none :=
          List.getElem?_eq_none (Nat.le_of_not_lt beyond)
        rw [before, past, short]
  · simp only [Session.advance, cursor, List.length_append]
  · simp only [overwrite, List.length_append, List.length_take, List.length_drop]
    omega

theorem Shows.opened (shows : e.Shows bytes begun) (chunk : List UInt8) :
    (e.opened chunk).Shows bytes ([] :: begun) where
  messageLength := shows.messageLength
  shown position inside := by
    rw [byteAt_cons, List.getElem?_nil, Option.none_or]
    exact shows.shown position inside
  underWay := (absurd rfl ·)

theorem needMore_of_pending (pending : ¬Event.Completes
    (⟨.receive chunk, .received (.ok (e.store payload).1)⟩ : Event kind)) :
    (e.store payload).1 = .needMore := by
  by_cases short : payload.length < e.session.remaining
  · rw [store_needMore short]
  · rw [store_complete (Nat.le_of_not_lt short)] at pending
    exact absurd ⟨_, rfl⟩ pending

theorem storedChunks_store (e : Endpoint kind) (chunk payload : List UInt8) :
    storedChunks [(⟨.receive chunk, .received (.ok (e.store payload).1)⟩ : Event kind)] =
      [chunk] :=
  storedChunks_append [] (e.store_stored chunk payload)

theorem storedChunks_answer (e : Endpoint kind) (chunk reply : List UInt8) :
    storedChunks [(⟨.receive chunk, .received (.ok (e.answer reply).1)⟩ : Event kind)] = [] := by
  rcases e.answer_received reply with ⟨given, answer⟩ | answer <;> rw [answer] <;> rfl

/-- A chunk that is not the last of a message adds its bytes to the receptions, or none. -/
theorem Shows.receive (shows : e.Shows bytes begun) (chunk : List UInt8)
    (pending : ¬Event.Completes (⟨.receive chunk, .received (e.receive chunk).1⟩ : Event kind)) :
    (e.receive chunk).2.Shows bytes
      ((storedChunks [(⟨.receive chunk, .received (e.receive chunk).1⟩ : Event kind)]).foldl
        (Chunk.gather kind) begun) := by
  have reception := e.receive_reception chunk
  generalize (e.receive chunk).1 = answer at *
  generalize (e.receive chunk).2 = after at *
  cases reception with
  | refused | aborted => exact shows.dropped rfl rfl rfl
  | unknown | allocated | dropped => exact shows
  | restarted =>
    rw [storedChunks_answer]
    have dropped : e.restart.Shows bytes begun := shows.dropped rfl rfl rfl
    exact dropped.same (e.restart.answer_sameReception _)
  | answered reply =>
    rw [storedChunks_answer]
    exact shows.same (e.answer_sameReception reply)
  | first tagged free idle opening =>
    rw [storedChunks_store]
    have begins : Chunk.gather kind begun chunk = Chunk.payload kind chunk :: begun := by
      cases begun with
      | nil => rfl
      | cons => exact if_pos opening
    rw [List.foldl_cons, List.foldl_nil, begins]
    exact (shows.opened chunk).store rfl (Nat.zero_le _) (needMore_of_pending pending)
  | next tagged free underWay inOrder =>
    rw [storedChunks_store]
    obtain ⟨current, older, rfl, cursor, within⟩ := shows.underWay underWay
    have continues : Chunk.gather kind (current :: older) chunk =
        (current ++ Chunk.payload kind chunk) :: older :=
      if_neg (inOrder ▸ underWay)
    rw [List.foldl_cons, List.foldl_nil, continues]
    exact shows.store cursor within (needMore_of_pending pending)

theorem Shows.operate (shows : e.Shows bytes begun) (operation : Operation kind)
    (pending : ¬Event.Completes ⟨operation, (e.operate operation).1⟩) :
    (e.operate operation).2.Shows bytes
      ((storedChunks [⟨operation, (e.operate operation).1⟩]).foldl (Chunk.gather kind) begun) := by
  rcases operation.keepsReception_or with keeps | ⟨chunk, rfl⟩ | rfl | rfl
  · have unstored := (keeps.calm (e.operate operation).1).2
    rw [storedChunks, List.filterMap_cons_none unstored]
    exact shows.same (operate_sameReception keeps)
  · exact shows.receive chunk pending
  · exact shows.dropped rfl rfl rfl
  · exact shows.dropped rfl rfl rfl

theorem Delivered.shows (delivered : e.Delivered bytes) : e.Shows bytes [] where
  messageLength := delivered.messageLength
  shown position inside := by
    have whole : e.buffer.take bytes.length = bytes :=
      delivered.messageLength ▸ delivered.message
    have same : e.buffer[position]? = bytes[position]? := by
      rw [← List.getElem?_take_of_lt inside, whole]
    rw [same]
    exact Option.none_or.symm
  underWay := (absurd delivered.idle ·)

theorem History.shows {later : List (Event kind)} (shows : e.Shows bytes [])
    (history : History e later after) (pending : ∀ event ∈ later, ¬event.Completes) :
    after.Shows bytes (begunReceptions later) := by
  induction history with
  | start => exact shows
  | next history operation ih =>
    have before := ih fun event member => pending event (List.mem_append_left _ member)
    have last := pending _ (List.mem_append_right _ List.mem_cons_self)
    rw [begunReceptions, storedChunks, List.filterMap_append, List.foldl_append]
    exact before.operate operation last

theorem Shows.length (shows : e.Shows bytes begun) : e.message.length = bytes.length := by
  refine (List.length_take_of_le ?_).trans shows.messageLength
  rw [shows.messageLength]
  refine Nat.le_of_not_lt fun short => ?_
  have place := shows.shown e.buffer.length short
  rw [List.getElem?_eq_none (Nat.le_refl _), List.getElem?_eq_getElem short] at place
  cases put : byteAt begun e.buffer.length <;> rw [put] at place <;> cases place

/-- The last completed message is still there exactly where nothing else has been written over
it. -/
theorem Shows.message_iff (shows : e.Shows bytes begun) :
    e.message = bytes ↔ Spares begun bytes := by
  have place {position : Nat} (inside : position < bytes.length) :
      e.message[position]? = (byteAt begun position).or bytes[position]? := by
    rw [← shows.shown position inside]
    exact List.getElem?_take_of_lt (shows.messageLength ▸ inside)
  constructor
  · rintro rfl position inside
    have shown := place inside
    cases put : byteAt begun position with
    | none => exact .inl rfl
    | some byte =>
      rw [put, Option.some_or] at shown
      exact .inr shown.symm
  · intro spares
    refine List.ext_getElem? fun position => ?_
    by_cases inside : position < bytes.length
    · rw [place inside]
      rcases spares position inside with none | same
      · rw [none, Option.none_or]
      · rw [same, Option.or_self]
    · have length := shows.length
      rw [List.getElem?_eq_none (by omega), List.getElem?_eq_none (by omega)]

theorem SameReception.trans {a b c : Endpoint kind} (first : a.SameReception b)
    (second : b.SameReception c) : a.SameReception c where
  expected := second.expected.trans first.expected
  remaining := second.remaining.trans first.remaining
  total := second.total.trans first.total
  cursor := second.cursor.trans first.cursor
  channel := second.channel.trans first.channel
  buffer := second.buffer.trans first.buffer
  messageLength := second.messageLength.trans first.messageLength

theorem flushDeferred_sameReception (e : Endpoint kind) (sink : Sink) :
    e.SameReception (e.flushDeferred sink).1 := by
  have taken : e.SameReception e.takeDeferred.2 :=
    @operate_sameReception _ e .takeDeferred trivial
  unfold flushDeferred
  split <;> rename_i same <;> rw [same] at taken <;> exact taken

theorem transmitChunks_sameReception (data : List UInt8) (steps : Nat) (e : Endpoint kind)
    (sink : Sink) : e.SameReception (transmitChunks data steps e sink).2.1 := by
  induction steps generalizing e sink with
  | zero => exact .refl e
  | succ steps ih =>
    have cut : e.SameReception (e.nextChunk data).2 :=
      @operate_sameReception _ e (.nextChunk data) trivial
    unfold transmitChunks
    split
    · rename_i next
      rwa [next] at cut
    rename_i chunk cutOff next
    rw [next] at cut
    have entered : cutOff.SameReception cutOff.enterTransmit.2 :=
      @operate_sameReception _ cutOff .enterTransmit trivial
    split <;> rename_i enter <;> rw [enter] at entered
    · exact cut.trans entered
    rename_i inside
    have left : inside.SameReception inside.leaveTransmit :=
      @operate_sameReception _ inside .leaveTransmit trivial
    have out := (cut.trans entered).trans
      (left.trans (inside.leaveTransmit.flushDeferred_sameReception (sink.transmit chunk).2))
    dsimp only
    split
    · exact out
    · exact out.trans (ih ..)

/-- Sending leaves what has been received as it is. -/
theorem sendAll_sameReception (e : Endpoint kind) (data : List UInt8) (sink : Sink) :
    e.SameReception (e.sendAll data sink).2.1 := by
  have begun : e.SameReception (e.beginSend data.length).2 :=
    @operate_sameReception _ e (.beginSend data.length) trivial
  unfold sendAll
  split <;> rename_i began <;> rw [began] at begun
  · exact begun
  rename_i locked
  have chunks := transmitChunks_sameReception data (data.length + 1) locked sink
  generalize transmitChunks data (data.length + 1) locked sink = sent at *
  obtain ⟨result, last, out⟩ := sent
  have finished : last.SameReception last.finishSend :=
    @operate_sameReception _ last .finishSend trivial
  have flushed := last.finishSend.flushDeferred_sameReception out
  exact begun.trans (chunks.trans (finished.trans flushed))

/-- A message that an endpoint has completed is there as long as no other is complete, but for the
bytes of the receptions begun since. -/
theorem History.message_after {layout : Layout kind} {events later : List (Event kind)}
    (history : History { layout := layout } events e)
    (answered : (e.receive chunk).1 = .ok (.complete total))
    (continued : History (e.receive chunk).2 later after)
    (pending : ∀ event ∈ later, ¬event.Completes) :
    Kept (events ++ [⟨.receive chunk, .received (.ok (.complete total))⟩]) later total
      (e.receive chunk).2.message after.message := by
  obtain ⟨bytes, older, since, delivered, recorded, reassembled⟩ :=
    receive_complete history.underWay answered
  rw [delivered.message]
  have shows := continued.shows delivered.shows pending
  exact ⟨⟨older, since, recorded, reassembled⟩, shows.length, shows.message_iff⟩

end Endpoint

theorem UnderWay.same {events : List (Event kind)} {e after : Endpoint kind}
    (underWay : UnderWay events e) (same : e.SameReception after) : UnderWay events after := by
  obtain ⟨before, since, recorded, unbroken, filling⟩ := underWay
  exact ⟨before, since, recorded, unbroken, filling.same same⟩

namespace UsbDevice

/-- A report with what the endpoint made of it and what the device said of it. -/
structure Report where
  event : Event .usb
  status : Status

/-- A device that takes in reports and sends messages, with the reports taken in. -/
inductive Run (initial : UsbDevice) : List Report → UsbDevice → Prop
  | start : Run initial [] initial
  | receive {reports : List Report} {d : UsbDevice} (run : Run initial reports d)
      (report : List UInt8) (sink : Sink) :
      Run initial
        (reports ++ [⟨⟨.receive report, .received (d.endpoint.receive report).1⟩,
          (d.receive report sink).1⟩])
        (d.receive report sink).2.1
  | send {reports : List Report} {d : UsbDevice} (run : Run initial reports d)
      (data : List UInt8) (sink : Sink) : Run initial reports (d.send data sink).2.1

variable {initial d after : UsbDevice} {reports later : List Report} {report bytes : List UInt8}
  {begun : List (List UInt8)} {total : Nat} {sink : Sink}

/-- The device reports the messages that its endpoint completes. -/
theorem receive_status (d : UsbDevice) (report : List UInt8) (sink : Sink) :
    (d.receive report sink).1 = .received total ↔
      (d.endpoint.receive report).1 = .ok (.complete total) := by
  unfold receive
  generalize d.endpoint.receive report = answered
  obtain ⟨_ | received, endpoint⟩ := answered
  · exact ⟨nofun, nofun⟩
  · cases received with
    | complete length => simp
    | _ => exact ⟨nofun, nofun⟩

theorem answerChannel_sameReception (d : UsbDevice) (channel : UInt16) (sink : Sink) :
    d.endpoint.SameReception (d.answerChannel channel sink).1.endpoint := by
  have same := d.endpoint.queueReply_sameReception
    (d.endpoint.controlHeader channel Tag.allocateChannel.byte ++ Word.big32 d.random.next.1)
  unfold answerChannel
  dsimp only
  split <;> rename_i queued <;> rw [queued] at same <;> exact same

/-- Beyond the report itself, the device leaves what has been received as it is. -/
theorem receive_sameReception (d : UsbDevice) (report : List UInt8) (sink : Sink) :
    (d.endpoint.receive report).2.SameReception (d.receive report sink).2.1.endpoint := by
  unfold receive
  generalize d.endpoint.receive report = answered
  obtain ⟨_ | received, endpoint⟩ := answered
  · exact .refl endpoint
  · cases received with
    | complete =>
      exact @Endpoint.operate_sameReception _ endpoint .takeComplete trivial
    | channelRequest channel => exact answerChannel_sameReception { d with endpoint } channel sink
    | _ => exact .refl endpoint

theorem send_shows (shows : d.endpoint.Shows bytes begun) (data : List UInt8) (sink : Sink) :
    (d.send data sink).2.1.endpoint.Shows bytes begun :=
  (shows.same (d.endpoint.sendAll_sameReception data sink)).dropped rfl rfl rfl

theorem Run.shows (shows : d.endpoint.Shows bytes []) (run : Run d later after)
    (pending : ∀ report ∈ later, ∀ length, report.status ≠ .received length) :
    after.endpoint.Shows bytes (begunReceptions (later.map Report.event)) := by
  induction run with
  | start => exact shows
  | @receive earlier d run report sink ih =>
    have before := ih fun report member => pending report (List.mem_append_left _ member)
    have last := pending _ (List.mem_append_right _ List.mem_cons_self)
    have still : ¬Event.Completes
        (⟨.receive report, .received (d.endpoint.receive report).1⟩ : Event .usb) := by
      rintro ⟨length, answer⟩
      exact last length ((d.receive_status report sink).mpr (Outcome.received.inj answer))
    rw [begunReceptions, storedChunks, List.map_append, List.filterMap_append, List.foldl_append]
    exact (before.receive report still).same (d.receive_sameReception report sink)
  | send run data sink ih => exact send_shows (ih pending) data sink

theorem Run.underWay {settings : Settings} {random : RandomSource}
    (run : Run (create settings random) reports d) (waiting : d.endpoint.session.expected ≠ 0) :
    UnderWay (reports.map Report.event) d.endpoint := by
  induction run with
  | start => exact absurd rfl waiting
  | @receive earlier d run report sink ih =>
    have same := d.receive_sameReception report sink
    rw [List.map_append]
    exact (Endpoint.underWay_receive ih (same.expected ▸ waiting)).same same
  | send => exact absurd rfl waiting

/-- The same of the messages that a device reports as received. -/
theorem Run.message_after {settings : Settings} {random : RandomSource}
    (run : Run (create settings random) reports d)
    (reported : (d.receive report sink).1 = .received total)
    (continued : Run (d.receive report sink).2.1 later after)
    (pending : ∀ report ∈ later, ∀ length, report.status ≠ .received length) :
    Kept (reports.map Report.event ++ [⟨.receive report, .received (.ok (.complete total))⟩])
      (later.map Report.event) total (d.receive report sink).2.1.message after.message := by
  have answered := (d.receive_status report sink).mp reported
  have same := d.receive_sameReception report sink
  obtain ⟨bytes, older, since, delivered, recorded, reassembled⟩ :=
    Endpoint.receive_complete run.underWay answered
  have shows := continued.shows (delivered.shows.same same) pending
  have taken : (d.receive report sink).2.1.message = bytes := by
    rw [message, Endpoint.message, same.buffer, same.messageLength]
    exact delivered.message
  rw [taken]
  exact ⟨⟨older, since, recorded, reassembled⟩, shows.length, shows.message_iff⟩

end UsbDevice

/-- After any history the message that was completed last is what an endpoint holds, and the one
reported last is what a device holds, as long as the receptions begun since have put down no other
byte in its place. One other byte is enough to lose it: all of them share one buffer. -/
theorem completed_message_kept_iff (layout : Layout kind) (settings : Settings)
    (random : RandomSource) :
    (∀ {events later : List (Event kind)} {e after : Endpoint kind} {chunk : List UInt8}
        {total : Nat},
      Endpoint.History { layout := layout } events e →
      (e.receive chunk).1 = .ok (.complete total) →
      Endpoint.History (e.receive chunk).2 later after →
      (∀ event ∈ later, ¬event.Completes) →
      Kept (events ++ [⟨.receive chunk, .received (.ok (.complete total))⟩]) later total
        (e.receive chunk).2.message after.message) ∧
    ∀ {reports later : List UsbDevice.Report} {d after : UsbDevice} {report : List UInt8}
        {sink : Sink} {total : Nat},
      UsbDevice.Run (.create settings random) reports d →
      (d.receive report sink).1 = .received total →
      UsbDevice.Run (d.receive report sink).2.1 later after →
      (∀ report ∈ later, ∀ length, report.status ≠ .received length) →
      Kept (reports.map UsbDevice.Report.event ++
          [⟨.receive report, .received (.ok (.complete total))⟩])
        (later.map UsbDevice.Report.event) total (d.receive report sink).2.1.message
        after.message :=
  ⟨Endpoint.History.message_after, UsbDevice.Run.message_after⟩

/-- Two bytes are received, then a part of a longer message that begins with the same byte. -/
theorem completed_message_kept_same :
    let whole : List UInt8 := [5, 0, 0, 0, 2, 0xAA, 0xBB]
    let part : List UInt8 := [5, 0, 0, 0, 5, 0xAA]
    let complete := (Endpoint.receive { layout := .legacy 20 } whole).2
    let device := UsbDevice.create .standard (.stepping 0 1)
    let received := (device.receive ([1, 1] ++ whole) {}).2.1
    (complete.receive part).1 = .ok .needMore ∧ complete.message = [0xAA, 0xBB] ∧
    (complete.receive part).2.message = complete.message ∧
    (received.receive ([1, 1] ++ part) {}).1 = .moreData ∧ received.message = [0xAA, 0xBB] ∧
    (received.receive ([1, 1] ++ part) {}).2.1.message = received.message := by
  intro whole part complete device received
  have fresh : Endpoint.History { layout := .legacy 20 } [] { layout := .legacy 20 } := .start
  have answered : (Endpoint.receive { layout := .legacy 20 } whole).1 = .ok (.complete 2) := rfl
  have both := completed_message_kept_iff (.legacy 20) .standard (.stepping 0 1)
  have kept := both.1 fresh answered
    (Endpoint.History.start.next (.receive part)) fun event member => by
      rintro ⟨total, answer⟩
      cases List.mem_singleton.mp member
      cases answer
  have reported : (device.receive ([1, 1] ++ whole) {}).1 = .received 2 := rfl
  have held := both.2 (.start : UsbDevice.Run device [] device) reported
    (UsbDevice.Run.start.receive ([1, 1] ++ part) {}) fun report member length => by
      cases List.mem_singleton.mp member
      exact nofun
  exact ⟨rfl, rfl, kept.kept.mpr (by decide), rfl, rfl, held.kept.mpr (by decide)⟩

/-- A later message that is only begun, with another byte, has replaced the first byte. -/
theorem completed_message_overwritten :
    let whole : List UInt8 := [5, 0, 0, 0, 2, 0xAA, 0xBB]
    let part : List UInt8 := [5, 0, 0, 0, 5, 0xCC]
    let complete := Endpoint.receive { layout := .legacy 20 } whole
    let received := (UsbDevice.create .standard (.stepping 0 1)).receive ([1, 1] ++ whole) {}
    complete.1 = .ok (.complete 2) ∧ complete.2.message = [0xAA, 0xBB] ∧
    (complete.2.receive part).1 = .ok .needMore ∧
    (complete.2.receive part).2.message = [0xCC, 0xBB] ∧
    received.1 = .received 2 ∧ received.2.1.message = [0xAA, 0xBB] ∧
    (received.2.1.receive ([1, 1] ++ part) {}).1 = .moreData ∧
    (received.2.1.receive ([1, 1] ++ part) {}).2.1.message = [0xCC, 0xBB] :=
  ⟨rfl, rfl, rfl, rfl, rfl, rfl, rfl, rfl⟩

end CardLink
