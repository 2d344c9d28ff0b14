import CardLink.Proofs.Controller.Fitting
import CardLink.Proofs.Controller.Parking
import CardLink.Proofs.Controller.Posting
import CardLink.Proofs.Controller.Run
import CardLink.Proofs.Framing.Resuming

namespace CardLink

/-- With no transmit on the stack a reply is given at once. -/
theorem Endpoint.receive_undeferred {kind : LinkKind} {e : Endpoint kind}
    (outside : e.session.lock.inTransmit = false) (chunk : List UInt8) :
    (e.receive chunk).1 ≠ .ok .deferred := by
  have reception := e.receive_reception chunk
  generalize (e.receive chunk).1 = answer at reception
  generalize (e.receive chunk).2 = after at reception
  intro deferred
  cases reception with
  | refused | unknown | allocated | dropped | aborted => cases deferred
  | restarted =>
    have still : e.restart.session.lock.inTransmit = false := outside
    rw [answer_outside still] at deferred
    cases deferred
  | answered reply =>
    rw [answer_outside outside] at deferred
    cases deferred
  | first | next =>
    simp only [store] at deferred
    split at deferred <;> cases deferred

namespace Controller

namespace Exchange

/-- No transmit is on the stack. -/
def Unentered (x : Exchange) : Prop := x.endpoint.session.lock.depth = 0

variable {x after : Exchange}

theorem Unentered.cut {data : List UInt8} {chunk : Option (List UInt8)}
    {endpoint : Endpoint .negotiated} (outside : x.Unentered)
    (next : x.endpoint.nextChunk data = (chunk, endpoint)) :
    Unentered { x with endpoint := endpoint } := by
  have same := x.endpoint.nextChunk_session data
  rw [next] at same
  exact (congrArg (fun session : Session => session.lock.depth) same).trans outside

theorem Unentered.fed {value : List UInt8} (outside : x.Unentered) (fed : x.Fed value after) :
    after.Unentered := by
  cases fed with
  | replied keeps _ _ offered => cases offered <;> exact keeps.depth.trans outside
  | received keeps => exact keeps.depth.trans outside
  | aborted => rfl

theorem Unentered.acknowledged (outside : x.Unentered) (acknowledged : x.Acknowledged after) :
    after.Unentered := by
  cases acknowledged with
  | ignored => exact outside
  | released _ _ next => exact outside.cut next
  | finished => rfl

theorem Unentered.sent {data : List UInt8} {result : Except SendError Unit}
    (outside : x.Unentered) (sent : x.Sent data result after) : after.Unentered := by
  have begun : Unentered { x with endpoint := x.endpoint.begun data.length } := outside
  cases sent with
  | refused => exact outside
  | overlong => rfl
  | stuck _ _ next => exact begun.cut next
  | begun _ _ next offered => cases offered <;> exact begun.cut next

end Exchange

theorem Core.Shift.unentered {c : Core} {effect : Effect} {after : Exchange}
    (outside : c.exchange.Unentered) (shift : c.Shift effect after) : after.Unentered := by
  cases shift with
  | restarted | connected | disconnected => rfl
  | subscribed | encrypted | tuned | permitted | sequenced | other => exact outside
  | written permit _ _ fed =>
    have answering : Exchange.Unentered
      { c.exchange with awaitingWriteAck := c.awaitingWriteAck || permit } := outside
    exact answering.fed fed
  | writeAcknowledged answered => cases answered <;> exact outside
  | notified acknowledged => exact outside.acknowledged acknowledged
  | ticked ticked =>
    cases ticked with
    | running => exact outside
    | expired => rfl
  | polled => exact c.endpoint.takeComplete_keepsSend.depth.trans outside
  | sent data sent => exact outside.sent sent

/-- The newer controller's link enters no transmit: it only queues. -/
theorem Run.unentered {settings : Settings} {random : RandomSource} {name : String}
    {address : List UInt8} {planeMode : Bool} {past : List (Core × Input)} {c : Core}
    (run : Run (.create settings random name address planeMode) past c) :
    c.exchange.Unentered := by
  induction run with
  | start => rfl
  | next _ input ih => exact (Core.step_shift _ input).unentered ih

namespace Core

/-- The commands that an input has queued. -/
def adds (c : Core) (input : Input) : List (List UInt8) :=
  (c.step input).outbox.drop c.outbox.length

/-- The commands that each of the inputs has queued. -/
def outputs (c : Core) : List Input → List (List (List UInt8))
  | [] => []
  | input :: inputs => c.adds input :: (c.step input).outputs inputs

/-- Every event and every operation meets an empty outbox. In between, frames are written or given
up. -/
def Drained (c : Core) : List Input → Prop
  | [] => True
  | input :: inputs =>
    (input = .nextCommand ∨ input = .commandDropped ∨ c.outbox = []) ∧
      (c.step input).Drained inputs

/-- What a link does with a reply, next to what it does without: the same, or it queues one command
more, the reply's notification, while it processes the acknowledgement of a write response. -/
inductive NotifiesOnAck (c without : Core) (reply : List UInt8) (inputs : List Input) : Prop
  | never (same : c.outputs inputs = without.outputs inputs)
  | once (earlier later : List Input) {packet : EventPacket} (queued : List (List (List UInt8)))
      (split : inputs = earlier ++ .packet packet :: later) (acks : packet.AcksWrite)
      (omitted : without.outputs inputs = without.outputs earlier ++ [] :: queued)
      (notified : c.outputs inputs = without.outputs earlier ++
        [((earlier.foldl Core.step without).chunkPost reply).frame] :: queued)

/-- What the endpoint replies to bytes of the host. -/
def reply? (c : Core) (value : List UInt8) : Option (List UInt8) :=
  match (c.endpoint.receive value).1 with
  | .ok (.reply reply) => some reply
  | .ok (.channelRequest channel) =>
    some (c.endpoint.controlHeader channel Tag.allocateChannel.byte)
  | _ => none

/-- The bytes of a write that asks for a permit, as many as there are. -/
def written (data : List UInt8) : List UInt8 := (data.drop 5).take (data[4]?.getD 0).toNat

/-- What a write that asks for a permit is replied to, apart from the permit. -/
def writeReply? (c : Core) (data : List UInt8) : Option (List UInt8) :=
  if Word.littleAt data 2 = c.handles.write + 1 ∧ c.acceptsWrites ∧ written data ≠ [] then
    c.reply? (written data)
  else none

variable {c without : Core} {reply : List UInt8} {inputs : List Input}

theorem NotifiesOnAck.later {input : Input} (same : c.adds input = without.adds input)
    (later : (c.step input).NotifiesOnAck (without.step input) reply inputs) :
    c.NotifiesOnAck without reply (input :: inputs) := by
  cases later with
  | never rest => exact .never (List.cons_eq_cons.mpr ⟨same, rest⟩)
  | once earlier later queued split acks omitted notified =>
    exact .once (input :: earlier) later queued (congrArg (input :: ·) split) acks
      (congrArg (without.adds input :: ·) omitted) (List.cons_eq_cons.mpr ⟨same, notified⟩)

theorem send_pending (c : Core) (command : Command) (params : List UInt8) :
    (c.send command params).pending = c.pending := by
  have same := congrArg Core.pending (send_parked c c.pending command params)
  exact same

/-- A reply is notified to an empty outbox, if its command can be framed. -/
theorem notify_either (empty : c.outbox = []) (reply : List UInt8) :
    c.notify reply false = c ∨
      c.notify reply false = { c with outbox := [(c.chunkPost reply).frame] } := by
  have sent : c.notify reply false =
      c.send (c.chunkPost reply).command (c.chunkPost reply).params := rfl
  by_cases counted : 255 < (c.chunkPost reply).params.length
  · have refused : Frame.build (c.chunkPost reply).command.opcode (c.chunkPost reply).params =
        .error .malformed := if_pos counted
    refine .inl (sent.trans ?_)
    simp only [send, refused]
  · have built : Frame.build (c.chunkPost reply).command.opcode (c.chunkPost reply).params =
        .ok (c.chunkPost reply).frame := if_neg counted
    have room : ([] : List (List UInt8)).length < outboxCapacity := by decide
    refine .inr (sent.trans ?_)
    simp only [send, built, empty, if_pos room, List.nil_append]

theorem step_commandDropped (settled : c.phase = .idle ∨ c.phase = .ready) :
    c.step .commandDropped = c := by
  rcases settled with phase | phase <;> simp only [step, commandDropped, phase]

/-- One command left to write delays the others no further than until it is written. -/
theorem outputs_backlog (settled : c.phase = .idle ∨ c.phase = .ready) (empty : c.outbox = [])
    {frame : List UInt8} (drained : Drained { c with outbox := [frame] } inputs) :
    outputs { c with outbox := [frame] } inputs = c.outputs inputs := by
  induction inputs with
  | nil => rfl
  | cons input inputs ih =>
    obtain ⟨rfl | rfl | full, later⟩ := drained
    · have first : step { c with outbox := [frame] } .nextCommand = { c with outbox := [] } := rfl
      have second : c.step .nextCommand = c := by simp only [step, nextCommand, empty]
      have same : ({ c with outbox := [] } : Core) = c := by rw [← empty]
      simp only [outputs, adds, first, second, same, empty, List.drop_nil]
    · have first := step_commandDropped (c := { c with outbox := [frame] }) settled
      rw [first] at later
      simp only [outputs, adds, first, step_commandDropped settled, List.drop_length, ih later]
    · cases full

/-- The two links go through the same states but for what waits, until something takes its place or
it is notified. The induction is on the inputs, with the parked state kept in step. -/
theorem notifiesOnAck (drained : (c.parked (some ⟨reply, false⟩)).Drained inputs) :
    (c.parked (some ⟨reply, false⟩)).NotifiesOnAck (c.parked none) reply inputs := by
  induction inputs generalizing c with
  | nil => exact .never rfl
  | cons input inputs ih =>
    obtain ⟨empty, later⟩ := drained
    by_cases releases : c.Releases input
    · obtain ⟨packet, rfl, acks, settled, -⟩ := id releases
      have empty : c.outbox = [] := (empty.resolve_left nofun).resolve_left nofun
      let answered : Core := { c with awaitingWriteAck := false, pending := none }
      have unnotified : (c.parked none).step (.packet packet) = answered :=
        releases.step_parked none
      have notified : (c.parked (some ⟨reply, false⟩)).step (.packet packet) =
          answered.notify reply false := releases.step_parked (some _)
      rcases notify_either (c := answered) empty reply with lost | queued
      · refine .never ?_
        simp only [outputs, adds, notified, lost, unnotified, parked_outbox]
      · rw [notified, queued] at later
        refine .once [] inputs (answered.outputs inputs) rfl acks ?_ ?_
        · have added : answered.outbox.drop c.outbox.length = [] := List.drop_length
          simp only [outputs, adds, unnotified, parked_outbox, added, List.nil_append]
        · have backlog := outputs_backlog (c := answered) settled empty later
          simp only [outputs, adds, notified, queued, backlog, parked_outbox, empty]
          rfl
    · cases step_disregards c input releases with
      | kept same =>
        rw [same] at later
        refine .later ?_ ?_
        · simp only [adds, same, parked_outbox]
        · simp only [same]
          exact ih later
      | supplanted same =>
        refine .never ?_
        simp only [outputs, adds, same, parked_outbox]

theorem feed_pending (waits : c.awaitingWriteAck = true) {value : List UInt8}
    (replies : reply ∈ c.reply? value) : (c.feed value).pending = some ⟨reply, false⟩ := by
  unfold reply? at replies
  unfold feed
  generalize c.endpoint.receive value = received at *
  obtain ⟨answer, endpoint⟩ := received
  match answer with
  | .ok (.reply _) =>
    cases replies
    simp only [queueNotify, waits, if_true]
  | .ok (.channelRequest _) =>
    cases replies
    simp only [queueNotify, waits, if_true]
    rfl
  | .ok .needMore | .ok (.complete _) | .ok .deferred | .ok .reset | .ok .dropped | .ok .ignored
  | .error _ => cases replies

theorem step_permit {packet : EventPacket}
    (permit : packet.vendorCode.bind VendorEvent.ofCode? = some .writePermitRequest)
    (long : 5 ≤ packet.vendorData.length)
    (current : Word.littleAt packet.vendorData 0 = c.connection.handle) :
    c.step (.packet packet) = c.onWritePermit packet.vendorData := by
  have code := EventPacket.code_of_vendorEvent permit
  have taken : ¬(packet.vendorData.length < 2 ∨
      Word.littleAt packet.vendorData 0 ≠ c.connection.handle) := by
    rintro (short | foreign)
    · omega
    · exact foreign current
  have vendor : c.onVendor packet = c.onWritePermit packet.vendorData := by
    simp only [onVendor, if_neg taken, permit]
  rw [← vendor]
  simp only [step, onPacket, EventPacket.kind_of_vendor code, code]
  rfl

/-- The reply to a write is parked, whatever was. -/
theorem onWritePermit_pending {data : List UInt8} (long : 5 ≤ data.length)
    (replies : reply ∈ c.writeReply? data) :
    (c.onWritePermit data).pending = some ⟨reply, false⟩ := by
  unfold writeReply? at replies
  split at replies
  · rename_i taken
    have fed : (feed { c with awaitingWriteAck := true } (written data)).pending =
        some ⟨reply, false⟩ := feed_pending (c := { c with awaitingWriteAck := true }) rfl replies
    simp only [onWritePermit, Nat.not_lt.mpr long, if_false, send_pending]
    exact (congrArg Core.pending (if_pos taken)).trans fed
  · cases replies

end Core

/-- A write that asks for a permit, in a packet as long as a length byte can say, has one command
queued, which carries its connection, attribute and bytes back. A reply to it is parked. From then
on, if the outbox is drained after every event and operation, the link queues what it would without
the reply, and at most one command more: the reply's notification, while a write response's
acknowledgement is processed. -/
theorem Run.reply_follows_response {settings : Settings} {random : RandomSource} {name : String}
    {address : List UInt8} {planeMode : Bool} {past : List (Core × Input)} {c : Core}
    {packet : EventPacket} (run : Run (.create settings random name address planeMode) past c)
    (drained : c.outbox = []) (short : packet.params.length ≤ 255)
    (permit : packet.vendorCode.bind VendorEvent.ofCode? = some .writePermitRequest)
    (long : 5 ≤ packet.vendorData.length)
    (current : Word.littleAt packet.vendorData 0 = c.connection.handle) :
    let data := packet.vendorData
    let value := Core.written data
    let after := c.step (.packet packet)
    after.outbox = [Post.frame ⟨.writeResponse, Word.little (Word.littleAt data 0) ++
      Word.little (Word.littleAt data 2) ++ [0x00, 0x00, UInt8.ofNat value.length] ++ value, []⟩] ∧
    (c.endpoint.receive value).1 ≠ .ok .deferred ∧
    ∀ reply ∈ c.writeReply? data, after.pending = some ⟨reply, false⟩ ∧
      ∀ inputs, after.Drained inputs → after.NotifiesOnAck (after.parked none) reply inputs := by
  intro data value after
  have carried : data.length ≤ 253 := by
    rw [show data = packet.params.drop 2 from rfl, List.length_drop]
    omega
  have answers : after = c.onWritePermit data := Core.step_permit permit long current
  refine ⟨?_, ?_, fun reply replies => ?_⟩
  · have posted := Core.onWritePermit_post drained (Core.permitPost?_fit carried)
    rw [Core.permitPost?, if_neg (Nat.not_lt.mpr long)] at posted
    rw [answers]
    exact posted
  · have unentered : c.endpoint.session.lock.depth = 0 := run.unentered
    have outside : c.endpoint.session.lock.inTransmit = false := by
      rw [SendLock.inTransmit, unentered]
      rfl
    exact Endpoint.receive_undeferred outside value
  · have parked : after.pending = some ⟨reply, false⟩ := by
      rw [answers]
      exact Core.onWritePermit_pending long replies
    refine ⟨parked, fun inputs drained => ?_⟩
    have same : after = after.parked (some ⟨reply, false⟩) := by
      rw [← parked]
      rfl
    rw [same] at drained ⊢
    exact Core.notifiesOnAck drained

/-- The reply to a version request goes out when the controller has acknowledged the permit. -/
theorem Run.reply_follows_response_version :
    let initial := Core.create .standard (.stepping 0 1) "card" [1, 2, 3, 4, 5, 6] true
    let c := Input.session.foldl Core.step initial
    let packet : EventPacket :=
      ⟨[0x04, 0xFF, 0x08, 0x13, 0x0C, 0x01, 0x08, 0x61, 0x00, 0x01, 0x00]⟩
    let inputs : List Input := [.nextCommand, .tick, .completed .writeResponse, .nextCommand]
    let after := c.step (.packet packet)
    let reply := [0x00, 0x00, 0x00, 0x00, 0x00]
    Input.asked 0x61 [0x00] = .packet packet ∧
    (∃ past, Run initial past c) ∧ c.outbox = [] ∧ packet.params.length ≤ 255 ∧
    packet.vendorCode.bind VendorEvent.ofCode? = some .writePermitRequest ∧
    5 ≤ packet.vendorData.length ∧ Word.littleAt packet.vendorData 0 = c.connection.handle ∧
    after.outbox = [[0x01, 0x26, 0xFD, 0x08, 0x01, 0x08, 0x61, 0x00, 0x00, 0x00, 0x01, 0x00]] ∧
    reply ∈ c.writeReply? packet.vendorData ∧ after.pending = some ⟨reply, false⟩ ∧
    after.Drained inputs ∧ after.NotifiesOnAck (after.parked none) reply inputs ∧
    after.outputs inputs = [[], [],
      [[0x01, 0x06, 0xFD, 0x0B, 0x40, 0x00, 0x50, 0x00, 0x00, 0x05, 0x00, 0x00, 0x00, 0x00, 0x00]],
      []] := by
  intro initial c packet inputs after reply
  obtain ⟨past, (run : Run initial past c)⟩ := Run.script initial Input.session
  have drained : c.outbox = [] := by decide +kernel
  have current : Word.littleAt packet.vendorData 0 = c.connection.handle := by decide +kernel
  have replies : reply ∈ c.writeReply? packet.vendorData := by decide +kernel
  have further : after.Drained inputs :=
    ⟨.inl rfl, .inr (.inr (by decide +kernel)), .inr (.inr (by decide +kernel)), .inl rfl, trivial⟩
  have short : packet.params.length ≤ 255 := by decide
  have permit : packet.vendorCode.bind VendorEvent.ofCode? = some .writePermitRequest := by decide
  have long : 5 ≤ packet.vendorData.length := by decide
  obtain ⟨answered, -, noticed⟩ :=
    run.reply_follows_response drained short permit long current
  obtain ⟨parked, later⟩ := noticed reply replies
  exact ⟨rfl, ⟨past, run⟩, drained, short, permit, long, current, answered.trans (by decide),
    replies, parked, further, later inputs further, by decide +kernel⟩

end Controller

end CardLink
