import CardLink.Proofs.UsbDevice.Channels
import Mathlib.Data.List.Forall2

namespace CardLink

namespace Endpoint

/-- A quiet endpoint on reports of this length that waits for a first chunk. -/
structure Idle (e : Endpoint .usb) (length : UInt8) : Prop where
  quiet : e.Quiet
  layout : e.layout = .usb length
  expected : e.session.expected = 0

variable {e : Endpoint .usb} {length : UInt8} {channel : UInt16} {data : List UInt8}

theorem receive_dropped {chunk : List UInt8}
    (dropped : (∃ error, (e.receive chunk).1 = .error error) ∨
      (e.receive chunk).1 = .ok .reset) : (e.receive chunk).2 = e.restart := by
  have unanswered (e : Endpoint .usb) (reply : List UInt8) : (e.answer reply).1 ≠ .reset := by
    rcases e.answer_received reply with ⟨given, answer⟩ | answer <;> rw [answer] <;> exact nofun
  have unstored (e : Endpoint .usb) (payload : List UInt8) : (e.store payload).1 ≠ .reset := by
    intro answer
    have stored := e.store_stored chunk payload
    rw [answer] at stored
    cases stored
  have reception := e.receive_reception chunk
  generalize (e.receive chunk).1 = answer at *
  generalize (e.receive chunk).2 = after at *
  cases reception with
  | refused | aborted => rfl
  | unknown | allocated | dropped => simp at dropped
  | restarted => simp [unanswered] at dropped
  | answered reply => simp [unanswered] at dropped
  | first | next => simp [unstored] at dropped

/-- Chunks that are all stored, on one channel, leave the session on it. -/
theorem receiveAll_channel {chunks : List (List UInt8)}
    (carried : ∀ chunk ∈ chunks, channelOf .usb chunk = channel)
    (stored : ∀ answer ∈ (e.receiveAll chunks).1,
      answer = .ok .needMore ∨ ∃ total, answer = .ok (.complete total))
    (before : chunks = [] → e.session.channel = channel) :
    (e.receiveAll chunks).2.session.channel = channel := by
  induction chunks generalizing e with
  | nil => exact before rfl
  | cons chunk rest ih =>
    refine ih (fun chunk member => carried chunk (List.mem_cons_of_mem _ member))
      (fun answer member => stored answer (List.mem_cons_of_mem _ member)) fun _ => ?_
    rw [← carried chunk List.mem_cons_self]
    refine receive_stored_channel ?_
    have first := stored (e.receive chunk).1 List.mem_cons_self
    rcases first with answer | ⟨total, answer⟩ <;> rw [answer] <;> rfl

theorem Idle.chunkLength (idle : e.Idle length) (fits : length.toNat ≤ 156) :
    e.chunkLength = length.toNat := by
  rw [Endpoint.chunkLength, idle.layout]
  exact Nat.min_eq_left fits

/-- To a sink that fails nothing an idle endpoint sends all the pieces, and it is idle again. -/
theorem Idle.sendAll (idle : e.Idle length) (short : data.length ≤ messageCapacity) :
    ∃ sent out, e.sendAll data {} = (.ok (), sent, out) ∧
      out.chunks = (e.begun data.length).pieces data ∧ sent.Idle length ∧
      sent.session.channel = e.session.channel := by
  have capacity : messageCapacity = 260 := rfl
  have same := e.sendAll_sameReception data {}
  obtain ⟨sent, sending, quiet, layout⟩ := idle.quiet.sendAll (by omega : data.length ≤ 65535) {}
  obtain ⟨result, offered⟩ :=
    Sink.transmitAll_willing (s := {}) rfl ((e.begun data.length).pieces data)
  rw [sending] at same
  rw [result] at sending
  exact ⟨sent, _, sending, offered,
    ⟨quiet, layout.trans idle.layout, same.expected.trans idle.expected⟩, same.channel⟩

/-- Every report of a message has the report length and carries the channel of the sender. -/
theorem Idle.mem_pieces (idle : e.Idle length) (room : 8 ≤ length.toNat)
    (fits : length.toNat ≤ 156) {report : List UInt8}
    (member : report ∈ (e.begun data.length).pieces data) :
    report.length = length.toNat ∧ report.take 2 = Word.big e.session.channel ∧
      channelOf .usb report = e.session.channel := by
  have chunkLength := idle.chunkLength fits
  obtain ⟨sequence, rest, rfl, whole⟩ := Endpoint.mem_pieces member
  exact ⟨(whole rfl (chunkLength ▸ room)).trans chunkLength, rfl, Chunk.channelOf_header rfl ..⟩

/-- An idle receiver gets the message with the last report, and is idle again, on the channel of the
sender. -/
theorem Idle.receiveAll {receiver : Endpoint .usb} (idle : receiver.Idle length)
    (sends : e.Idle length) (short : data.length ≤ messageCapacity) (room : 8 ≤ length.toNat)
    (fits : length.toNat ≤ 156) :
    ∃ count done, ((e.begun data.length).pieces data).length = count + 1 ∧
      receiver.receiveAll ((e.begun data.length).pieces data) =
        (List.replicate count (.ok .needMore) ++ [.ok (.complete data.length)], done) ∧
      done.message = data ∧ done.Idle length ∧
      done.session.channel = e.session.channel := by
  obtain ⟨count, done, counted, answers, delivered⟩ :=
    receiveAll_pieces short (sends.chunkLength fits ▸ room) idle.quiet.free idle.expected
  have quiet := idle.quiet.receiveAll ((e.begun data.length).pieces data)
  have layout := receiver.receiveAll_layout ((e.begun data.length).pieces data)
  have carried : ∀ report ∈ (e.begun data.length).pieces data,
      channelOf .usb report = e.session.channel :=
    fun report member => (sends.mem_pieces room fits member).2.2
  have stored : ∀ answer ∈ (receiver.receiveAll ((e.begun data.length).pieces data)).1,
      answer = .ok .needMore ∨ ∃ total, answer = .ok (.complete total) := by
    rw [answers]
    intro answer member
    rcases List.mem_append.mp member with waiting | last
    · exact .inl (List.eq_of_mem_replicate waiting)
    · exact .inr ⟨_, List.mem_singleton.mp last⟩
  have channel := receiveAll_channel carried stored fun none => by
    rw [none] at counted
    cases counted
  rw [answers] at quiet layout channel
  exact ⟨count, done, counted, answers, delivered.message,
    ⟨quiet, layout.trans idle.layout, delivered.idle⟩, channel⟩

theorem Idle.takeComplete (idle : e.Idle length) : e.takeComplete.2.Idle length := by
  unfold Endpoint.takeComplete
  split
  · exact ⟨⟨idle.quiet.lock, idle.quiet.held⟩, idle.layout, idle.expected⟩
  · exact idle

end Endpoint

namespace UsbDevice

open Endpoint

/-- A command and its response, after reports of any content. -/
structure Exchange where
  noise : List (List UInt8)
  /-- Where the device's answers to the noise go. -/
  wire : Sink := {}
  command : List UInt8
  response : List UInt8

/-- What the host and the device see of an exchange. -/
structure Transcript where
  noise : List Status
  requested : Except SendError Unit
  requests : List (List UInt8)
  statuses : List Status
  /-- The message the device holds once all requests are in. -/
  command : List UInt8
  answered : Except SendError Unit
  /-- The device waits for a first report once the answer is out. -/
  idle : Bool
  answers : List (List UInt8)
  received : List (Except ChunkError Received)
  /-- The message the host holds once all answers are in. -/
  response : List UInt8

/-- The statuses of some reports, one after the other, and the device after the last one. -/
def receiveAll (d : UsbDevice) (sink : Sink) :
    List (List UInt8) → List Status × UsbDevice × Sink
  | [] => ([], d, sink)
  | report :: rest =>
    let (status, d, sink) := d.receive report sink
    let (statuses, d, sink) := d.receiveAll sink rest
    (status :: statuses, d, sink)

/-- The device takes in the noise and the command and sends the response back to the host. -/
def exchange (host : Endpoint .usb) (d : UsbDevice) (x : Exchange) :
    Transcript × Endpoint .usb × UsbDevice :=
  let (noise, d, _) := d.receiveAll x.wire x.noise
  let (requested, host, out) := host.sendAll x.command {}
  let (statuses, d, _) := d.receiveAll {} out.chunks
  let command := d.message
  let (answered, d, back) := d.send x.response {}
  let (received, host) := host.receiveAll back.chunks
  ({ noise, requested, requests := out.chunks, statuses, command, answered
     idle := d.endpoint.session.isIdle, answers := back.chunks, received
     response := host.message }, host, d)

/-- Exchanges one after the other, between the same host and the same device. -/
def converse (host : Endpoint .usb) (d : UsbDevice) :
    List Exchange → List Transcript × Endpoint .usb × UsbDevice
  | [] => ([], host, d)
  | x :: rest =>
    let (transcript, host, d) := exchange host d x
    let (transcripts, host, d) := converse host d rest
    (transcript :: transcripts, host, d)

/-- Both messages have arrived, each with its last report, on reports of this length that all carry
the channel, and the device waits for the next command. -/
structure Served (length : Nat) (channel : UInt16) (x : Exchange) (t : Transcript) : Prop where
  requested : t.requested = .ok ()
  statuses : ∃ count, t.requests.length = count + 1 ∧
    t.statuses = List.replicate count .moreData ++ [.received x.command.length]
  command : t.command = x.command
  answered : t.answered = .ok ()
  idle : t.idle = true
  received : ∃ count, t.answers.length = count + 1 ∧
    t.received = List.replicate count (.ok .needMore) ++ [.ok (.complete x.response.length)]
  response : t.response = x.response
  reports : ∀ report ∈ t.requests ++ t.answers,
    report.length = length ∧ report.take 2 = Word.big channel

variable {d : UsbDevice} {host : Endpoint .usb} {length : UInt8} {sink : Sink}
  {data : List UInt8}

theorem receive_status_reset (d : UsbDevice) (report : List UInt8) (sink : Sink) :
    (d.receive report sink).1 = .reset ↔
      (∃ error, (d.endpoint.receive report).1 = .error error) ∨
        (d.endpoint.receive report).1 = .ok .reset := by
  unfold receive
  generalize d.endpoint.receive report = outcome
  obtain ⟨error | received, endpoint⟩ := outcome
  · simp
  · cases received <;> simp

/-- A report that is answered by a reset leaves no reception under way. -/
theorem receive_reset {report : List UInt8} (refused : (d.receive report sink).1 = .reset) :
    (d.receive report sink).2.1.endpoint.session.expected = 0 := by
  rw [(d.receive_sameReception report sink).expected]
  exact receive_dropped ((d.receive_status_reset report sink).mp refused) ▸ rfl

theorem receiveAll_quiet (quiet : d.endpoint.Quiet) (sink : Sink) (reports : List (List UInt8)) :
    (d.receiveAll sink reports).2.1.endpoint.Quiet ∧
      (d.receiveAll sink reports).2.1.endpoint.layout = d.endpoint.layout := by
  induction reports generalizing d sink with
  | nil => exact ⟨quiet, rfl⟩
  | cons report rest ih =>
    obtain ⟨still, layout⟩ := receive_quiet quiet report sink
    obtain ⟨last, same⟩ := ih still (d.receive report sink).2.2
    exact ⟨last, same.trans layout⟩

/-- The last report decides whether a reception is under way, if it is refused. -/
theorem receiveAll_expected {reports : List (List UInt8)}
    (cleared : ∀ status ∈ (d.receiveAll sink reports).1.getLast?, status = .reset)
    (idle : reports = [] → d.endpoint.session.expected = 0) :
    (d.receiveAll sink reports).2.1.endpoint.session.expected = 0 := by
  induction reports generalizing d sink with
  | nil => exact idle rfl
  | cons report rest ih =>
    refine ih (fun status last => cleared status (List.mem_getLast?_cons last)) ?_
    rintro rfl
    exact receive_reset (cleared _ rfl)

/-- Reports of any content leave the device waiting for a command, if the last one is refused. -/
theorem receiveAll_idle (idle : d.endpoint.Idle length) {reports : List (List UInt8)}
    (cleared : ∀ status ∈ (d.receiveAll sink reports).1.getLast?, status = .reset) :
    (d.receiveAll sink reports).2.1.endpoint.Idle length := by
  obtain ⟨quiet, layout⟩ := receiveAll_quiet idle.quiet sink reports
  exact ⟨quiet, layout.trans idle.layout, receiveAll_expected cleared fun _ => idle.expected⟩

/-- The device reports what its endpoint makes of the chunks of a message. -/
theorem receiveAll_complete {count total : Nat} {reports : List (List UInt8)}
    {done : Endpoint .usb}
    (answers : d.endpoint.receiveAll reports =
      (List.replicate count (.ok .needMore) ++ [.ok (.complete total)], done)) :
    d.receiveAll sink reports =
      (List.replicate count .moreData ++ [.received total],
        { d with endpoint := done.takeComplete.2 }, sink) := by
  induction reports generalizing d count with
  | nil => cases count <;> cases answers
  | cons report rest ih =>
    rcases given : d.endpoint.receive report with ⟨answer, after⟩
    simp only [Endpoint.receiveAll, given] at answers
    cases count with
    | zero =>
      cases rest with
      | nil =>
        cases answers
        simp only [receiveAll, receive, given]
        rfl
      | cons => cases answers
    | succ count =>
      obtain ⟨rfl, more⟩ := List.cons.inj (congrArg Prod.fst answers)
      have last : (after.receiveAll rest).2 = done := congrArg Prod.snd answers
      have further := ih (d := { d with endpoint := after }) (Prod.ext more last)
      simp only [receiveAll, receive, given, further]
      rfl

/-- An idle device gets the message of an idle host with its last report. -/
theorem receiveAll_message (sink : Sink) (idle : d.endpoint.Idle length)
    (sends : host.Idle length) (short : data.length ≤ messageCapacity)
    (room : 8 ≤ length.toNat) (fits : length.toNat ≤ 156) :
    ∃ count got, ((host.begun data.length).pieces data).length = count + 1 ∧
      d.receiveAll sink ((host.begun data.length).pieces data) =
        (List.replicate count .moreData ++ [.received data.length], got, sink) ∧
      got.message = data ∧ got.endpoint.Idle length ∧
      got.endpoint.session.channel = host.session.channel := by
  obtain ⟨count, done, counted, answers, message, still, channel⟩ :=
    idle.receiveAll sends short room fits
  have same := @operate_sameReception _ done .takeComplete trivial
  refine ⟨count, _, counted, receiveAll_complete answers, ?_, still.takeComplete, ?_⟩
  · rw [← message, UsbDevice.message, Endpoint.message, Endpoint.message, ← same.buffer,
      ← same.messageLength]
    rfl
  · exact same.channel.trans channel

/-- An idle device sends all the pieces of a message and waits for the next command. -/
theorem send_message (idle : d.endpoint.Idle length) (short : data.length ≤ messageCapacity) :
    ∃ sent out, d.send data {} = (.ok (), sent, out) ∧
      out.chunks = (d.endpoint.begun data.length).pieces data ∧ sent.endpoint.Idle length ∧
      sent.endpoint.session.isIdle = true := by
  obtain ⟨after, out, sending, pieces, still, -⟩ := idle.sendAll short
  refine ⟨{ d with endpoint := { after with session := after.session.resetReception } }, out, ?_,
    pieces, ⟨still.quiet.resetReception, still.layout, rfl⟩, rfl⟩
  rw [send, sending]

/-- One exchange between an idle host and an idle device is served and leaves both idle, on the
channel of the host. -/
theorem exchange_served (rests : host.Idle length) (waits : d.endpoint.Idle length)
    (room : 8 ≤ length.toNat) (fits : length.toNat ≤ 156) {x : Exchange}
    (command : x.command.length ≤ messageCapacity)
    (response : x.response.length ≤ messageCapacity)
    (cleared : ∀ status ∈ (exchange host d x).1.noise.getLast?, status = .reset) :
    Served length.toNat host.session.channel x (exchange host d x).1 ∧
      (exchange host d x).2.1.Idle length ∧
      (exchange host d x).2.1.session.channel = host.session.channel ∧
      (exchange host d x).2.2.endpoint.Idle length := by
  have ready := receiveAll_idle waits cleared
  unfold exchange
  generalize d.receiveAll x.wire x.noise = noisy at *
  obtain ⟨noise, d, wire⟩ := noisy
  obtain ⟨asked, out, asking, requests, awaits, sameChannel⟩ := rests.sendAll command
  obtain ⟨count, got, counted, statuses, commanded, holds, onChannel⟩ :=
    receiveAll_message {} ready rests command room fits
  obtain ⟨sent, back, sending, answers, done, idle⟩ := send_message holds response
  obtain ⟨count', last, counted', received, responded, rested, onChannel'⟩ :=
    awaits.receiveAll holds response room fits
  rw [onChannel] at onChannel'
  have reports : ∀ report ∈ (host.begun x.command.length).pieces x.command ++
      (got.endpoint.begun x.response.length).pieces x.response,
      report.length = length.toNat ∧ report.take 2 = Word.big host.session.channel := by
    intro report member
    rcases List.mem_append.mp member with request | answer
    · obtain ⟨whole, opens, -⟩ := rests.mem_pieces room fits request
      exact ⟨whole, opens⟩
    · obtain ⟨whole, opens, -⟩ := holds.mem_pieces room fits answer
      exact ⟨whole, onChannel ▸ opens⟩
  simp only [asking, requests, statuses, sending, answers, received]
  exact ⟨⟨rfl, ⟨count, counted, rfl⟩, commanded, rfl, idle, ⟨count', counted', rfl⟩, responded,
    reports⟩, rested, onChannel', done⟩

/-- Every exchange of a conversation is served, whatever report length leaves room for a message and
whatever came before: each end is left as it was found, waiting on the same channel. -/
theorem converse_served {settings : Settings} {random : RandomSource} {reports : List Report}
    (run : Run (create settings random) reports d) (idle : d.endpoint.session.expected = 0)
    (rests : host.Idle settings.hidReportLength) (room : 8 ≤ settings.hidReportLength.toNat)
    (fits : settings.hidReportLength.toNat ≤ 156) {exchanges : List Exchange}
    (short : ∀ x ∈ exchanges,
      x.command.length ≤ messageCapacity ∧ x.response.length ≤ messageCapacity)
    (cleared : ∀ t ∈ (converse host d exchanges).1, ∀ status ∈ t.noise.getLast?,
      status = .reset) :
    List.Forall₂ (Served settings.hidReportLength.toNat host.session.channel) exchanges
      (converse host d exchanges).1 := by
  obtain ⟨quiet, layout⟩ := run.quiet
  have waits : d.endpoint.Idle settings.hidReportLength := ⟨quiet, layout, idle⟩
  clear run idle quiet layout
  generalize channel : host.session.channel = c
  induction exchanges generalizing host d with
  | nil => exact .nil
  | cons x rest ih =>
    obtain ⟨command, response⟩ := short x List.mem_cons_self
    obtain ⟨served, rested, onChannel, done⟩ :=
      exchange_served rests waits room fits command response
      (cleared _ List.mem_cons_self)
    refine .cons (channel ▸ served) (ih rested ?_ ?_ done (onChannel.trans channel))
    · exact fun x member => short x (List.mem_cons_of_mem _ member)
    · exact fun t member => cleared t (List.mem_cons_of_mem _ member)

/-- A long command; then a command that is only begun, a report that is refused, and a long
response. -/
theorem converse_served_recovered :
    let host : Endpoint .usb := { layout := .usb 64, session.channel := 0x0101 }
    let device := create .standard (.stepping 0 1)
    let exchanges : List Exchange :=
      [{ noise := [], command := List.replicate 100 0xA5, response := [0x90, 0x00] },
        { noise := [[1, 1, 5, 0, 0, 0, 9, 7], [2, 2, 7]], command := [0x42]
          response := List.replicate 60 0x5A }]
    (converse host device exchanges).1.map Transcript.noise = [[], [.moreData, .reset]] ∧
    List.Forall₂ (Served 64 0x0101) exchanges (converse host device exchanges).1 := by
  intro host device exchanges
  have noise : (converse host device exchanges).1.map Transcript.noise =
      [[], [.moreData, .reset]] := by decide +kernel
  have cleared : ∀ t ∈ (converse host device exchanges).1, ∀ status ∈ t.noise.getLast?,
      status = .reset := by
    intro t member
    have seen := List.mem_map_of_mem (f := Transcript.noise) member
    rw [noise] at seen
    generalize t.noise = statuses at seen
    revert statuses
    decide
  exact ⟨noise, converse_served (.start : Run device [] device) rfl ⟨⟨rfl, rfl⟩, rfl, rfl⟩
    (by decide) (by decide) (by decide) cleared⟩

end UsbDevice

end CardLink
