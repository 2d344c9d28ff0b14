import CardLink.Proofs.Controller.Moves
import CardLink.Proofs.Controller.Sequences

namespace CardLink

/-- The controller has taken a write response. -/
def EventPacket.AcksWrite (packet : EventPacket) : Prop :=
  packet.kind = .commandComplete ∧ packet.opcode = some Command.writeResponse.opcode

namespace Controller.Core

/-- The input has a write response acknowledged that is waited for. -/
def Releases (c : Core) (input : Input) : Prop :=
  ∃ packet, input = .packet packet ∧ packet.AcksWrite ∧ (c.phase = .idle ∨ c.phase = .ready) ∧
    c.awaitingWriteAck = true

/-- The same state with this notification waiting. -/
def parked (c : Core) (waiting : Option PendingNotify) : Core := { c with pending := waiting }

/-- What waits plays no part in an operation: it is left alone, or something else is put in its
place. -/
inductive Disregards (c : Core) (operation : Core → Core) : Prop
  | kept (same : ∀ waiting, operation (c.parked waiting) = (operation c).parked waiting)
  | supplanted (same : ∀ waiting, operation (c.parked waiting) = operation c)

namespace Disregards

variable {c : Core} {first second : Core → Core}

theorem followed (disregards : c.Disregards first)
    (keeps : ∀ (d : Core) waiting, second (d.parked waiting) = (second d).parked waiting) :
    c.Disregards fun d => second (first d) := by
  cases disregards with
  | kept same => exact .kept fun waiting => (congrArg second (same waiting)).trans (keeps _ _)
  | supplanted same => exact .supplanted fun waiting => congrArg second (same waiting)

theorem of_eq (disregards : c.Disregards first)
    (same : ∀ waiting, second (c.parked waiting) = first (c.parked waiting)) :
    c.Disregards second := by
  have here : second c = first c := same c.pending
  cases disregards with
  | kept kept => exact .kept fun waiting => by rw [same, kept, here]
  | supplanted supplanted => exact .supplanted fun waiting => by rw [same, supplanted, here]

/-- The same of an operation on what another one leaves, that does not look at what waits. -/
theorem preceded {d : Core} (disregards : d.Disregards second)
    (keeps : ∀ waiting, first (c.parked waiting) = d.parked waiting) :
    c.Disregards fun e => second (first e) := by
  have here : first c = d.parked c.pending := keeps c.pending
  cases disregards with
  | kept same => exact .kept fun waiting => by rw [keeps, here, same, same]; rfl
  | supplanted same => exact .supplanted fun waiting => by rw [keeps, here, same, same]

theorem branch {condition : Core → Prop} [DecidablePred condition]
    (same : ∀ waiting, condition (c.parked waiting) ↔ condition c)
    (met : condition c → c.Disregards first) (unmet : ¬condition c → c.Disregards second) :
    c.Disregards fun d => if condition d then first d else second d := by
  by_cases holds : condition c
  · exact (met holds).of_eq fun waiting => if_pos ((same waiting).mpr holds)
  · exact (unmet holds).of_eq fun waiting => if_neg (mt (same waiting).mp holds)

end Disregards

variable (c : Core) (waiting : Option PendingNotify)

@[simp]
theorem parked_settings : (c.parked waiting).settings = c.settings := rfl

@[simp]
theorem parked_connectionUpdated :
    (c.parked waiting).connectionUpdated = c.connectionUpdated := rfl

@[simp]
theorem parked_txData : (c.parked waiting).txData = c.txData := rfl

@[simp]
theorem parked_outbox : (c.parked waiting).outbox = c.outbox := rfl

@[simp]
theorem parked_phase : (c.parked waiting).phase = c.phase := rfl

@[simp]
theorem parked_initStep : (c.parked waiting).initStep = c.initStep := rfl

@[simp]
theorem parked_advStep : (c.parked waiting).advStep = c.advStep := rfl

@[simp]
theorem parked_ready : (c.parked waiting).ready = c.ready := rfl

@[simp]
theorem parked_nameChanged : (c.parked waiting).nameChanged = c.nameChanged := rfl

@[simp]
theorem parked_connection : (c.parked waiting).connection = c.connection := rfl

@[simp]
theorem parked_pairing : (c.parked waiting).pairing = c.pairing := rfl

@[simp]
theorem parked_endpoint : (c.parked waiting).endpoint = c.endpoint := rfl

@[simp]
theorem parked_chunkInFlight : (c.parked waiting).chunkInFlight = c.chunkInFlight := rfl

@[simp]
theorem parked_awaitingWriteAck : (c.parked waiting).awaitingWriteAck = c.awaitingWriteAck := rfl

theorem send_parked (command : Command) (params : List UInt8) :
    (c.parked waiting).send command params = (c.send command params).parked waiting := by
  unfold send
  rw [parked_outbox]
  split
  · rfl
  · split <;> rfl

theorem dispatch_parked (command? : Option Command) (params : List UInt8) :
    (c.parked waiting).dispatch command? params =
      (c.dispatch command? params).parked waiting := by
  cases command? with
  | none => rfl
  | some command => exact send_parked c waiting command params

theorem sendStep_parked (command? : Option Command) (params : List UInt8) :
    (c.parked waiting).sendStep command? params =
      (c.sendStep command? params).parked waiting := by
  cases command? with
  | none => rfl
  | some command => exact send_parked { c with awaited := some command } waiting command params

theorem stepAdvertising_parked :
    (c.parked waiting).stepAdvertising = c.stepAdvertising.parked waiting := by
  rw [stepAdvertising_eq, stepAdvertising_eq]
  exact dispatch_parked (c.placed c.footing.advanced) waiting _ _

theorem startAdvertising_parked :
    (c.parked waiting).startAdvertising = c.startAdvertising.parked waiting :=
  stepAdvertising_parked { c with
    phase := .configuringAdvertising
    advStep := if c.nameChanged then .idle else .setDeviceName
    nameChanged := false
    awaited := none
    advWanted := !c.planeMode } waiting

theorem learnHandles_parked (reply : List UInt8) :
    (c.parked waiting).learnHandles reply = (c.learnHandles reply).parked waiting := by
  unfold learnHandles
  rw [parked_initStep]
  split
  case h_6 => rfl
  all_goals split <;> rfl

theorem finishInit_parked : (c.parked waiting).finishInit = c.finishInit.parked waiting := by
  rw [finishInit_eq, finishInit_eq]
  exact dispatch_parked (c.placed c.footing.finished) waiting _ _

theorem enterInitStep_parked :
    (c.parked waiting).enterInitStep = c.enterInitStep.parked waiting := by
  unfold enterInitStep
  rw [parked_initStep]
  cases c.initStep
  case configureAdvertising =>
    exact stepAdvertising_parked { c with
      initStep := .configureAdvertising
      awaited := none
      advStep := .idle
      advWanted := !c.planeMode } waiting
  case finished => exact finishInit_parked c waiting
  all_goals exact sendStep_parked c waiting _ _

theorem nextInitStep_parked : (c.parked waiting).nextInitStep = c.nextInitStep.parked waiting :=
  enterInitStep_parked { c with initStep := c.initStep.next } waiting

theorem stepInit_parked (reply : List UInt8) :
    (c.parked waiting).stepInit reply = (c.stepInit reply).parked waiting := by
  unfold stepInit
  rw [parked_initStep, learnHandles_parked, nextInitStep_parked]
  split
  · let initial : Core := { c with advWanted := !c.planeMode }
    refine (congrArg (fun d : Core => if d.advStep = .finished then d.nextInitStep else d)
      (stepAdvertising_parked initial waiting)).trans ?_
    dsimp only
    rw [parked_advStep, nextInitStep_parked]
    split <;> rfl
  · rfl

theorem beginInit_disregards : c.Disregards beginInit := .supplanted fun _ => rfl

theorem switchAdvertising_parked (on : Bool) :
    (c.parked waiting).switchAdvertising on = (c.switchAdvertising on).parked waiting := by
  cases on with
  | true => exact send_parked c waiting .setDiscoverable c.discoverableParams
  | false => exact send_parked c waiting .setNonDiscoverable []

theorem enableAdvertising_parked (on : Bool) :
    (c.parked waiting).enableAdvertising on = (c.enableAdvertising on).parked waiting := by
  unfold enableAdvertising
  rw [parked_ready, parked_nameChanged, parked_connection]
  split
  · split
    · rfl
    · exact switchAdvertising_parked { c with advRequest := some on } waiting on
  · rfl

theorem resetPairings_disregards : c.Disregards resetPairings := by
  unfold resetPairings
  refine .branch (fun _ => Iff.rfl) (fun _ => ?_) fun _ => .kept fun _ => rfl
  refine .branch (fun _ => Iff.rfl) (fun _ => .supplanted fun _ => rfl) fun _ => ?_
  exact .kept fun waiting => send_parked c waiting .clearSecurityDb []

theorem respond_parked (answer : PairingAnswer) :
    (c.parked waiting).respond answer = (c.respond answer).parked waiting := by
  unfold respond
  rw [parked_pairing]
  rcases c.pairing.respond answer with ⟨reply, pairing⟩
  match reply with
  | some (.passkey _) | some (.confirm _) =>
    exact send_parked { c with pairing := pairing } waiting _ _
  | none => rfl

theorem nextCommand_parked :
    (c.parked waiting).nextCommand.2 = c.nextCommand.2.parked waiting := by
  unfold nextCommand
  rw [parked_outbox]
  split <;> rfl

theorem commandDropped_parked :
    (c.parked waiting).commandDropped = c.commandDropped.parked waiting := by
  unfold commandDropped
  rw [parked_phase]
  split <;> rfl

theorem notify_parked (chunk : List UInt8) (ofMessage : Bool) :
    (c.parked waiting).notify chunk ofMessage = (c.notify chunk ofMessage).parked waiting := by
  cases ofMessage with
  | true =>
    exact send_parked { c with
      chunkInFlight := true
      transferTimeout :=
        c.transferTimeout.arm (Settings.microseconds c.settings.transferTimeout) } waiting _ _
  | false => exact send_parked c waiting _ _

/-- A notification that has to wait takes the place of another one. -/
theorem queueNotify_disregards (chunk : List UInt8) (ofMessage : Bool) :
    c.Disregards (·.queueNotify chunk ofMessage) :=
  .branch (fun _ => Iff.rfl) (fun _ => .supplanted fun _ => rfl) fun _ =>
    .kept fun waiting => notify_parked c waiting chunk ofMessage

theorem sendMessage_disregards (data : List UInt8) :
    c.Disregards fun d => (d.sendMessage data).2 := by
  by_cases connected : c.connection.isConnected = true
  · rcases begun : c.endpoint.beginSend data.length with ⟨error | _, endpoint⟩
    · refine .kept fun waiting => ?_
      simp only [sendMessage, parked_connection, parked_endpoint, connected, begun, if_true]
      rfl
    · by_cases long : messageCapacity < data.length
      · refine .kept fun waiting => ?_
        simp only [sendMessage, parked_connection, parked_endpoint, connected, begun, long, if_true]
        rfl
      · rcases next : endpoint.nextChunk data with ⟨_ | chunk, endpoint⟩
        · refine .kept fun waiting => ?_
          simp only [sendMessage, parked_connection, parked_endpoint, connected, begun, long, next,
            if_true, if_false]
          rfl
        · have queued : c.Disregards fun d =>
              queueNotify { d with endpoint := endpoint, txData := data } chunk true :=
            (queueNotify_disregards { c with endpoint := endpoint, txData := data } chunk
              true).preceded fun _ => rfl
          refine queued.of_eq fun waiting => ?_
          simp only [sendMessage, parked_connection, parked_endpoint, connected, begun, long, next,
            if_true, if_false]
  · refine .kept fun waiting => ?_
    simp only [sendMessage, parked_connection, connected]
    rfl

theorem requestInterval_parked :
    (c.parked waiting).requestInterval = c.requestInterval.parked waiting := by
  unfold requestInterval
  dsimp only
  rw [parked_settings, parked_connectionUpdated, parked_connection]
  split
  · exact send_parked { c with connectionUpdated := true } waiting _ _
  · rfl

theorem finishMessage_parked :
    (c.parked waiting).finishMessage = c.finishMessage.parked waiting := by
  unfold finishMessage
  dsimp only
  rw [parked_endpoint]
  split
  · rfl
  · exact requestInterval_parked { c with
      endpoint := c.endpoint.finishSend
      txData := []
      transferTimeout := c.transferTimeout.cancel } waiting

theorem onNotifyComplete_parked :
    (c.parked waiting).onNotifyComplete = c.onNotifyComplete.parked waiting := by
  unfold onNotifyComplete
  dsimp only
  rw [parked_chunkInFlight, parked_endpoint, parked_txData]
  split
  · split
    · rcases c.endpoint.nextChunk c.txData with ⟨_ | chunk, endpoint⟩
      · exact finishMessage_parked { c with chunkInFlight := false, endpoint := endpoint } waiting
      · exact notify_parked { c with chunkInFlight := false, endpoint := endpoint } waiting chunk
          true
    · exact finishMessage_parked { c with chunkInFlight := false } waiting
  · rfl

theorem onWriteAck_disregards (free : ¬c.awaitingWriteAck = true) : c.Disregards onWriteAck :=
  .branch (fun _ => Iff.rfl) (fun waits => absurd waits free) fun _ => .kept fun _ => rfl

theorem onAdvertisingSwitched_disregards : c.Disregards onAdvertisingSwitched := by
  unfold onAdvertisingSwitched
  dsimp only
  refine .branch (fun _ => Iff.rfl) (fun _ => ?_) fun _ => ?_
  · exact .branch (fun _ => Iff.rfl) (fun _ => .supplanted fun _ => rfl) fun _ => .kept fun _ => rfl
  · refine .branch (fun _ => Iff.rfl) (fun _ => ?_) fun _ => .kept fun _ => rfl
    refine .branch (fun _ => Iff.rfl) (fun _ => ?_) fun _ => .kept fun _ => rfl
    exact .kept fun waiting =>
      startAdvertising_parked { c with advRequest := none, advertising := false } waiting

theorem onCommandComplete_disregards {packet : EventPacket} (kind : packet.kind = .commandComplete)
    (holds : ¬c.Releases (.packet packet)) : c.Disregards (·.onCommandComplete packet) := by
  match answered : packet.opcode with
  | none => exact .kept fun _ => by simp only [onCommandComplete, answered]
  | some opcode =>
    cases phase : c.phase with
    | initializing =>
      have initializes : c.Disregards fun d =>
          if d.awaits opcode then d.stepInit packet.returnParams else d :=
        .branch (fun _ => Iff.rfl) (fun _ => .kept fun waiting => stepInit_parked c waiting _)
          fun _ => .kept fun _ => rfl
      refine initializes.of_eq fun waiting => ?_
      simp only [onCommandComplete, answered, parked_phase, phase]
    | configuringAdvertising =>
      have configures : c.Disregards fun d =>
          if d.awaits opcode then d.stepAdvertising else d :=
        .branch (fun _ => Iff.rfl) (fun _ => .kept (stepAdvertising_parked c))
          fun _ => .kept fun _ => rfl
      refine configures.of_eq fun waiting => ?_
      simp only [onCommandComplete, answered, parked_phase, phase]
    | failed =>
      refine .kept fun waiting => ?_
      simp only [onCommandComplete, answered, parked_phase, phase]
    | idle | ready =>
      have acknowledged : opcode = Command.writeResponse.opcode → ¬c.awaitingWriteAck = true := by
        rintro rfl waits
        exact holds ⟨packet, rfl, ⟨kind, answered⟩, by simp [phase], waits⟩
      have completes : c.Disregards fun d =>
          if opcode = Command.writeResponse.opcode then d.onWriteAck
          else if opcode = Command.updateCharValue.opcode then d.onNotifyComplete
          else if opcode = Command.setNonDiscoverable.opcode ∨
              opcode = Command.setDiscoverable.opcode then d.onAdvertisingSwitched
          else d :=
        .branch (fun _ => Iff.rfl) (fun same => onWriteAck_disregards c (acknowledged same))
          fun _ => .branch (fun _ => Iff.rfl) (fun _ => .kept (onNotifyComplete_parked c))
            fun _ => .branch (fun _ => Iff.rfl) (fun _ => onAdvertisingSwitched_disregards c)
              fun _ => .kept fun _ => rfl
      refine completes.of_eq fun waiting => ?_
      simp only [onCommandComplete, answered, parked_phase, phase]

theorem onLeMeta_disregards (params : List UInt8) : c.Disregards (·.onLeMeta params) := by
  unfold onLeMeta
  match params.head?.bind LeEvent.ofCode? with
  | some .connectionComplete | some .enhancedConnectionComplete =>
    exact .branch (fun _ => Iff.rfl) (fun _ => .supplanted fun _ => rfl) fun _ => .kept fun _ => rfl
  | some .connectionUpdateComplete => exact .kept fun _ => rfl
  | some .dataLengthChange | some .phyUpdateComplete =>
    exact .branch (fun _ => Iff.rfl) (fun _ => .kept fun _ => rfl) fun _ => .kept fun _ => rfl
  | none => exact .kept fun _ => rfl

theorem onDisconnect_disregards (params : List UInt8) : c.Disregards (·.onDisconnect params) :=
  .supplanted fun _ => rfl

theorem onEncryptionChange_parked (params : List UInt8) :
    (c.parked waiting).onEncryptionChange params =
      (c.onEncryptionChange params).parked waiting := by
  unfold onEncryptionChange
  rw [parked_connection]
  split <;> rfl

theorem feed_disregards (chunk : List UInt8) : c.Disregards (·.feed chunk) := by
  rcases received : c.endpoint.receive chunk with ⟨answer, endpoint⟩
  have queues (reply : List UInt8) : c.Disregards fun d =>
      queueNotify { d with endpoint := endpoint } reply false :=
    (queueNotify_disregards { c with endpoint := endpoint } reply false).preceded fun _ => rfl
  match answer with
  | .ok (.reply reply) =>
    refine (queues reply).of_eq fun waiting => ?_
    simp only [feed, parked_endpoint, received]
  | .ok (.channelRequest channel) =>
    refine (queues (endpoint.controlHeader channel Tag.allocateChannel.byte)).of_eq
      fun waiting => ?_
    simp only [feed, parked_endpoint, received]
  | .ok .reset =>
    refine .kept fun waiting => ?_
    simp only [feed, parked_endpoint, received]
    rw [parked_chunkInFlight]
    split <;> rfl
  | .ok .needMore | .ok (.complete _) | .ok .deferred | .ok .dropped | .ok .ignored
  | .error _ =>
    refine .kept fun waiting => ?_
    simp only [feed, parked_endpoint, received]
    rfl

theorem onSubscription_parked (on : Bool) :
    (c.parked waiting).onSubscription on = (c.onSubscription on).parked waiting := by
  unfold onSubscription
  dsimp only
  rw [parked_endpoint, parked_connection]
  split
  · exact send_parked { c with notifications := on } waiting _ _
  · rfl

theorem onAttributeModified_disregards (data : List UInt8) :
    c.Disregards (·.onAttributeModified data) := by
  unfold onAttributeModified
  dsimp only
  refine .branch (fun _ => Iff.rfl) (fun _ => .kept fun _ => rfl) fun _ => ?_
  refine .branch (fun _ => Iff.rfl) (fun _ => ?_) fun _ => ?_
  · exact .kept fun waiting => onSubscription_parked c waiting _
  · exact .branch (fun _ => Iff.rfl) (fun _ => feed_disregards c _) fun _ => .kept fun _ => rfl

theorem onWritePermit_disregards (data : List UInt8) : c.Disregards (·.onWritePermit data) := by
  unfold onWritePermit
  dsimp only
  refine .branch (fun _ => Iff.rfl) (fun _ => .kept fun _ => rfl) fun _ => ?_
  let attr := Word.littleAt data 2
  let value := (data.drop 5).take (data[4]?.getD 0).toNat
  have taken : c.Disregards fun d =>
      if attr = d.handles.write + 1 ∧ acceptsWrites { d with awaitingWriteAck := true } ∧ value ≠ []
      then feed { d with awaitingWriteAck := true } value
      else { d with awaitingWriteAck := true } :=
    .branch (fun _ => Iff.rfl)
      (fun _ => (feed_disregards { c with awaitingWriteAck := true } value).preceded fun _ => rfl)
      fun _ => .kept fun _ => rfl
  exact @Disregards.followed c _ (·.send .writeResponse _) taken
    fun d waiting => send_parked d waiting .writeResponse _

theorem onVendor_disregards (packet : EventPacket) : c.Disregards (·.onVendor packet) := by
  unfold onVendor
  dsimp only
  refine .branch (fun _ => Iff.rfl) (fun _ => .kept fun _ => rfl) fun _ => ?_
  match packet.vendorCode.bind VendorEvent.ofCode? with
  | some .attributeModified => exact onAttributeModified_disregards c _
  | some .writePermitRequest => exact onWritePermit_disregards c _
  | some .indication => exact .kept fun waiting => send_parked c waiting _ _
  | some .procedureTimeout => exact .supplanted fun _ => rfl
  | some .pairingComplete | some .passKeyRequest | some .numericComparison
  | some .exchangeMtuResponse | some .connectionUpdateResponse | some .txPoolAvailable | none =>
    exact .kept fun _ => rfl

theorem onTick_disregards : c.Disregards onTick := by
  unfold onTick
  dsimp only
  exact .branch (fun _ => Iff.rfl) (fun _ => .supplanted fun _ => rfl) fun _ => .kept fun _ => rfl

/-- Nothing but the acknowledgement of a write response looks at what waits for it. -/
theorem step_disregards (input : Input) (holds : ¬c.Releases input) :
    c.Disregards (·.step input) := by
  cases input with
  | beginInit => exact beginInit_disregards c
  | packet packet =>
    simp only [step, onPacket]
    cases kind : packet.kind with
    | commandComplete => exact onCommandComplete_disregards c kind holds
    | commandStatus => exact .kept fun _ => rfl
    | leMeta => exact onLeMeta_disregards c packet.params
    | hardwareError => exact beginInit_disregards c
    | asynchronous =>
      dsimp only
      refine .branch (fun _ => Iff.rfl) (fun _ => onDisconnect_disregards c _) fun _ => ?_
      refine .branch (fun _ => Iff.rfl) (fun _ => ?_) fun _ => ?_
      · exact .kept fun waiting => onEncryptionChange_parked c waiting _
      · exact .branch (fun _ => Iff.rfl) (fun _ => onVendor_disregards c packet)
          fun _ => .kept fun _ => rfl
  | tick => exact onTick_disregards c
  | nextCommand => exact .kept fun waiting => nextCommand_parked c waiting
  | commandDropped => exact .kept fun waiting => commandDropped_parked c waiting
  | poll => exact .kept fun _ => rfl
  | sendMessage data => exact sendMessage_disregards c data
  | enableAdvertising on => exact .kept fun waiting => enableAdvertising_parked c waiting on
  | setDeviceName name => exact .kept fun _ => rfl
  | setPlaneMode on => exact .kept fun _ => rfl
  | resetPairings => exact resetPairings_disregards c
  | respond answer => exact .kept fun waiting => respond_parked c waiting answer
  | nextPairingMessage => exact .kept fun _ => rfl

theorem Releases.step_parked {c : Core} {input : Input} (releases : c.Releases input)
    (waiting : Option PendingNotify) :
    (c.parked waiting).step input =
      match waiting with
      | some held => { c with awaitingWriteAck := false, pending := none }.notify held.chunk
          held.ofMessage
      | none => { c with awaitingWriteAck := false, pending := none } := by
  obtain ⟨packet, rfl, ⟨kind, opcode⟩, settled, waits⟩ := releases
  have acknowledged : (c.parked waiting).step (.packet packet) = (c.parked waiting).onWriteAck := by
    rcases settled with phase | phase <;>
      simp only [step, onPacket, kind, onCommandComplete, opcode, parked_phase, phase, if_true]
  rw [acknowledged, onWriteAck, parked_awaitingWriteAck, waits, if_pos rfl]
  cases waiting <;> rfl

end Controller.Core

end CardLink
