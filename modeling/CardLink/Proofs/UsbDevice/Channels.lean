import CardLink.Proofs.Framing.Quiet
import CardLink.Proofs.Framing.Supplanting

namespace CardLink

theorem Word.big_injective {a b : UInt16} (same : Word.big a = Word.big b) : a = b := by
  simp only [Word.big, List.cons.injEq, and_true] at same
  rw [← Word.join_split a, same.1, same.2, Word.join_split]

theorem Chunk.tag?_known {kind : LinkKind} {chunk : List UInt8} {tag : Tag}
    (tagged : Chunk.tag? kind chunk = some tag) : tag ∈ kind.tags := by
  obtain ⟨byte, -, classified⟩ := Option.bind_eq_some_iff.mp tagged
  exact List.mem_of_find?_eq_some classified

/-- The channel that an event brings into force: a refused report clears it, and a first chunk that
is stored brings its own. -/
def Event.channel? (event : Event .usb) : Option UInt16 :=
  match event.outcome with
  | .received (.error _) => some 0
  | _ => event.stored?.bind fun chunk =>
    if Chunk.sequence .usb chunk = 0 then some (Endpoint.channelOf .usb chunk) else none

theorem Endpoint.store_channel {kind : LinkKind} (e : Endpoint kind) (payload : List UInt8) :
    (e.store payload).2.session.channel = e.session.channel := by
  simp only [Endpoint.store]
  split <;> rfl

theorem Event.channel?_store (e : Endpoint .usb) (chunk payload : List UInt8) :
    Event.channel? ⟨.receive chunk, .received (.ok (e.store payload).1)⟩ =
      if Chunk.sequence .usb chunk = 0 then some (Endpoint.channelOf .usb chunk) else none := by
  have stored := e.store_stored chunk payload
  simp only [Event.channel?, stored, Option.bind_some]

theorem Event.channel?_answer (e : Endpoint .usb) (chunk reply : List UInt8) :
    Event.channel? ⟨.receive chunk, .received (.ok (e.answer reply).1)⟩ = none := by
  rcases e.answer_received reply with ⟨given, answer⟩ | answer <;> rw [answer] <;> rfl

theorem Endpoint.receive_channel (e : Endpoint .usb) (chunk : List UInt8) :
    (e.receive chunk).2.session.channel =
      (Event.channel? ⟨.receive chunk, .received (e.receive chunk).1⟩).getD e.session.channel := by
  have reception := e.receive_reception chunk
  generalize (e.receive chunk).1 = answer at *
  generalize (e.receive chunk).2 = after at *
  cases reception with
  | refused | unknown | allocated | dropped => rfl
  | restarted tagged | aborted tagged =>
    -- A host on USB can neither start over nor give up but by a refused report.
    exact absurd (Chunk.tag?_known tagged) (by decide)
  | answered reply =>
    rw [Event.channel?_answer, Option.getD_none]
    exact (e.answer_sameReception reply).channel
  | first tagged free idle opening =>
    rw [Event.channel?_store, if_pos opening, store_channel]
    rfl
  | next tagged free underWay inOrder =>
    rw [Event.channel?_store, if_neg (inOrder ▸ underWay), store_channel]
    rfl

/-- A chunk that is stored is on the channel of the session. -/
theorem Endpoint.receive_stored_channel {e : Endpoint .usb} {chunk : List UInt8}
    (stored : Event.stored?
      (⟨.receive chunk, .received (e.receive chunk).1⟩ : Event .usb) = some chunk) :
    (e.receive chunk).2.session.channel = channelOf .usb chunk := by
  have reception := e.receive_reception chunk
  generalize (e.receive chunk).1 = answer at *
  generalize (e.receive chunk).2 = after at *
  cases reception with
  | refused | unknown | allocated | dropped | aborted => cases stored
  | restarted =>
    rcases e.restart.answer_received (e.echo chunk) with ⟨given, answer⟩ | answer <;>
      rw [answer] at stored <;> cases stored
  | answered reply =>
    rcases e.answer_received reply with ⟨given, answer⟩ | answer <;>
      rw [answer] at stored <;> cases stored
  | first => exact store_channel _ _
  | next _ _ _ _ sameChannel =>
    rw [store_channel]
    exact (sameChannel (by decide)).symm

namespace UsbDevice

open Endpoint

variable {initial d after : UsbDevice} {reports later : List Report} {report data : List UInt8}
  {total : Nat} {sink wire : Sink} {settings : Settings} {random : RandomSource}

/-- The channel in force after some reports, from the one in force before them. -/
def channelAfter (channel : UInt16) (reports : List Report) : UInt16 :=
  reports.foldl (fun channel report => report.event.channel?.getD channel) channel

/-- Nothing is held on a quiet link, so that a report goes through the endpoint and no further. -/
theorem receive_endpoint (quiet : d.endpoint.Quiet) (report : List UInt8) (sink : Sink) :
    (d.receive report sink).2.1.endpoint = (d.endpoint.receive report).2 ∨
      (d.receive report sink).2.1.endpoint = (d.endpoint.receive report).2.takeComplete.2 := by
  have still := quiet.receive report
  unfold receive
  generalize d.endpoint.receive report = answered at *
  obtain ⟨_ | received, endpoint⟩ := answered
  · exact .inl rfl
  · cases received with
    | complete => exact .inr rfl
    | channelRequest channel =>
      left
      simp only [answerChannel, still.queueReply]
    | _ => exact .inl rfl

theorem receive_quiet (quiet : d.endpoint.Quiet) (report : List UInt8) (sink : Sink) :
    (d.receive report sink).2.1.endpoint.Quiet ∧
      (d.receive report sink).2.1.endpoint.layout = d.endpoint.layout := by
  have still := quiet.receive report
  have layout := (d.endpoint.receive_keepsSend report).layout
  rcases receive_endpoint quiet report sink with same | same <;> rw [same]
  · exact ⟨still, layout⟩
  · exact ⟨still.takeComplete, (takeComplete_keepsSend _).layout.trans layout⟩

theorem send_quiet (quiet : d.endpoint.Quiet) (data : List UInt8) (sink : Sink) :
    (d.send data sink).2.1.endpoint.Quiet ∧
      (d.send data sink).2.1.endpoint.layout = d.endpoint.layout := by
  unfold send
  by_cases long : 65535 < data.length
  · rw [d.endpoint.sendAll_long long]
    exact ⟨quiet.resetReception, rfl⟩
  · obtain ⟨last, sent, still, layout⟩ := quiet.sendAll (Nat.le_of_not_lt long) sink
    rw [sent]
    exact ⟨still.resetReception, layout⟩

/-- Between two calls nothing is being sent, and the report length stays what it was set to. -/
theorem Run.quiet (run : Run (create settings random) reports d) :
    d.endpoint.Quiet ∧ d.endpoint.layout = .usb settings.hidReportLength := by
  induction run with
  | start => exact ⟨⟨rfl, rfl⟩, rfl⟩
  | receive run report sink ih =>
    obtain ⟨still, layout⟩ := receive_quiet ih.1 report sink
    exact ⟨still, layout.trans ih.2⟩
  | send run data sink ih =>
    obtain ⟨still, layout⟩ := send_quiet ih.1 data sink
    exact ⟨still, layout.trans ih.2⟩

theorem Run.append {earlier : List Report} (run : Run initial earlier d)
    (continued : Run d later after) : Run initial (earlier ++ later) after := by
  induction continued with
  | start => rwa [List.append_nil]
  | receive _ report sink ih =>
    rw [← List.append_assoc]
    exact ih.receive report sink
  | send _ data sink ih => exact ih.send data sink

theorem Run.channel (run : Run initial reports d) :
    d.endpoint.session.channel = channelAfter initial.endpoint.session.channel reports := by
  induction run with
  | start => rfl
  | @receive earlier d run report sink ih =>
    rw [(d.receive_sameReception report sink).channel, d.endpoint.receive_channel, ih, channelAfter,
      channelAfter, List.foldl_append]
    rfl
  | @send earlier d run data sink ih =>
    exact (d.endpoint.sendAll_sameReception data sink).channel.trans ih

/-- The reports of a message open with the channel in force. There are none of a message that is too
long, and none where no report has room for a byte of it. -/
theorem send_emits (quiet : d.endpoint.Quiet) (data : List UInt8) (wire : Sink) :
    ∃ emitted, (d.send data wire).2.2.chunks = wire.chunks ++ emitted ∧
      (emitted = [] ↔ 65535 < data.length ∨ data ≠ [] ∧ d.endpoint.chunkLength < 8) ∧
      ∀ report ∈ emitted, report.take 2 = Word.big d.endpoint.session.channel := by
  unfold send
  by_cases long : 65535 < data.length
  · rw [d.endpoint.sendAll_long long]
    exact ⟨[], (List.append_nil _).symm, iff_of_true rfl (.inl long), nofun⟩
  · obtain ⟨last, sent, -, -⟩ := quiet.sendAll (Nat.le_of_not_lt long) wire
    obtain ⟨emitted, unsent, pieces, offered, none⟩ :=
      wire.transmitAll_chunks ((d.endpoint.begun data.length).pieces data)
    rw [sent]
    refine ⟨emitted, offered, ?_, fun report member => ?_⟩
    · have empty := d.endpoint.pieces_begun_eq_nil data
      rw [or_iff_right long]
      exact ⟨fun nothing => empty.mp (none nothing), fun stuck => by
        rw [empty.mpr stuck] at pieces
        exact (List.append_eq_nil_iff.mp pieces.symm).1⟩
    · obtain ⟨sequence, rest, rfl, -⟩ := mem_pieces (pieces ▸ List.mem_append_left unsent member)
      rfl

/-- An answer leaves on the channel of the command exactly where the reports taken in between leave
that channel in force, or where it has no reports at all. -/
theorem Run.answer_channel_iff (run : Run (create settings random) reports d)
    (reported : (d.receive report sink).1 = .received total)
    (continued : Run (d.receive report sink).2.1 later after) (data : List UInt8) (wire : Sink) :
    ∃ emitted, (after.send data wire).2.2.chunks = wire.chunks ++ emitted ∧
      (emitted = [] ↔
        65535 < data.length ∨ data ≠ [] ∧ settings.hidReportLength.toNat < 8) ∧
      ((∀ answer ∈ emitted, answer.take 2 = Word.big (channelOf .usb report)) ↔
        emitted = [] ∨
          channelAfter (channelOf .usb report) later = channelOf .usb report) := by
  have received := run.receive report sink
  have answered := (d.receive_status report sink).mp reported
  have command : (d.receive report sink).2.1.endpoint.session.channel = channelOf .usb report := by
    rw [(d.receive_sameReception report sink).channel]
    refine receive_stored_channel ?_
    rw [answered]
    rfl
  obtain ⟨quiet, layout⟩ := (received.append continued).quiet
  have inForce := continued.channel
  rw [command] at inForce
  have length : after.endpoint.chunkLength < 8 ↔ settings.hidReportLength.toNat < 8 := by
    rw [chunkLength, layout]
    show min _ 156 < 8 ↔ _
    omega
  obtain ⟨emitted, offered, empty, opens⟩ := send_emits quiet data wire
  rw [length] at empty
  rw [inForce] at opens
  refine ⟨emitted, offered, empty, fun same => ?_, ?_⟩
  · cases emitted with
    | nil => exact .inl rfl
    | cons first rest =>
      have member := List.mem_cons_self (a := first) (l := rest)
      exact .inr (Word.big_injective ((opens first member).symm.trans (same first member)))
  · rintro (rfl | same)
    · exact nofun
    · exact same ▸ opens

/-- A version is asked for on another channel before the answer goes out. -/
theorem Run.answer_channel_iff_asked :
    let command : List UInt8 := [0xAB, 0xCD, 5, 0, 0, 0, 1, 0x42]
    let device := create .standard (.stepping 0 1)
    let received := device.receive command {}
    let asked := received.2.1.receive [0x11, 0x11, 0, 0, 0] {}
    received.1 = .received 1 ∧ asked.1 = .moreData ∧
    ∃ emitted, (asked.2.1.send [0x90, 0x00] {}).2.2.chunks = emitted ∧ emitted ≠ [] ∧
      ∀ answer ∈ emitted, answer.take 2 = [0xAB, 0xCD] := by
  intro command device received asked
  have reported : received.1 = .received 1 := rfl
  have run := (Run.start : Run received.2.1 [] _).receive [0x11, 0x11, 0, 0, 0] {}
  obtain ⟨emitted, offered, empty, opens⟩ :=
    Run.answer_channel_iff (.start : Run device [] device) reported run [0x90, 0x00] {}
  have channel : Word.big (channelOf .usb command) = [0xAB, 0xCD] := by decide
  rw [channel] at opens
  exact ⟨reported, rfl, emitted, offered, fun none => absurd (empty.mp none) (by decide),
    opens.mpr (.inr rfl)⟩

/-- A command is received whole. A first report on another channel takes the answer along, and a
report that is refused leaves it on none. -/
theorem answer_on_another_channel :
    let device := create .standard (.stepping 0 1)
    let received := device.receive [0xAB, 0xCD, 5, 0, 0, 0, 1, 0x42] {}
    let begun := received.2.1.receive [0x11, 0x11, 5, 0, 0, 0, 2, 0x43] {}
    let refused := received.2.1.receive [0x11, 0x11, 7] {}
    received.1 = .received 1 ∧ begun.1 = .moreData ∧ refused.1 = .reset ∧
    (begun.2.1.send [0x90, 0x00] {}).2.2.chunks.map (List.take 2) = [[0x11, 0x11]] ∧
    (refused.2.1.send [0x90, 0x00] {}).2.2.chunks.map (List.take 2) = [[0, 0]] :=
  ⟨rfl, rfl, rfl, by decide +kernel, by decide +kernel⟩

end UsbDevice

end CardLink
