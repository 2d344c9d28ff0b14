import CardLink.Proofs.Controller.Posts

namespace CardLink

namespace Controller.Core

variable {c : Core}

theorem send_fitting {post : Post} (fits : post.Fits) : c.send post.command post.params =
    if c.outbox.length < outboxCapacity then { c with outbox := c.outbox ++ [post.frame] }
    else c := by
  simp only [send, fits.build]

theorem send_room {post : Post} (room : c.outbox.length < outboxCapacity) (fits : post.Fits) :
    c.send post.command post.params = { c with outbox := c.outbox ++ [post.frame] } :=
  (send_fitting fits).trans (if_pos room)

theorem send_outbox (empty : c.outbox = []) {post : Post} (fits : post.Fits) :
    (c.send post.command post.params).outbox = [post.frame] := by
  have room : c.outbox.length < outboxCapacity := by
    rw [empty]
    decide
  rw [send_room room fits, empty]
  rfl

/-- A frame by itself fits the outbox. -/
theorem send_post (empty : c.outbox = []) {command : Command} {params : List UInt8}
    {parts : List (List UInt8 × Nat)}
    (fit : ∀ post ∈ some (Post.mk command params parts), post.Fits) :
    (c.send command params).outbox =
      ((some (Post.mk command params parts)).map Post.frame).toList :=
  send_outbox empty (fit _ rfl)

theorem advDataParams_eq (fits : c.advDataPost.Fits) : c.advDataParams = c.advDataPost.params := by
  have part := fits.parts _ (List.mem_singleton.mpr rfl)
  have whole : c.name.take (Advertising.capacity - 5) = c.name := by
    refine List.take_of_length_le ?_
    simp only [List.length_append, List.length_cons, List.length_nil] at part
    omega
  rw [advDataParams, Advertising.payload, whole]
  rfl

theorem discoverableParams_eq (fits : c.discoverablePost.Fits) :
    c.discoverableParams = c.discoverablePost.params := by
  have part := fits.parts _ (List.mem_singleton.mpr rfl)
  have whole : c.name.take (Advertising.capacity - 1) = c.name := by
    refine List.take_of_length_le ?_
    simp only [List.length_cons] at part
    omega
  rw [discoverableParams, Advertising.localName, whole]
  rfl

/-- The command that is dispatched is the one that is specified. -/
theorem dispatch_room (room : c.outbox.length < outboxCapacity) {post? : Option Post}
    (fit : ∀ post ∈ post?, post.Fits) {command? : Option Command} {params : List UInt8}
    (command : command? = post?.map Post.command) (whole : ∀ post ∈ post?, params = post.params) :
    (c.dispatch command? params).outbox = c.outbox ++ (post?.map Post.frame).toList := by
  subst command
  cases post? with
  | none => exact (List.append_nil _).symm
  | some post =>
    rw [whole post rfl]
    exact congrArg outbox (send_room room (fit post rfl))

theorem dispatch_post (empty : c.outbox = []) {post? : Option Post}
    (fit : ∀ post ∈ post?, post.Fits) {command? : Option Command} {params : List UInt8}
    (command : command? = post?.map Post.command) (whole : ∀ post ∈ post?, params = post.params) :
    (c.dispatch command? params).outbox = (post?.map Post.frame).toList := by
  have room : c.outbox.length < outboxCapacity := by
    rw [empty]
    decide
  rw [dispatch_room room fit command whole, empty]
  rfl

theorem advPost?_command (c : Core) (step : AdvStep) :
    step.command? = (c.advPost? step).map Post.command := by
  cases step <;> rfl

theorem advPost?_params {step : AdvStep} (fit : ∀ post ∈ c.advPost? step, post.Fits) :
    ∀ post ∈ c.advPost? step, c.advParams step = post.params := by
  intro post posted
  cases step <;> cases posted
  case setAdvData => exact advDataParams_eq (fit _ rfl)
  case start => exact discoverableParams_eq (fit _ rfl)
  case setScanResponse | setDeviceName => rfl

theorem stepAdvertising_room (room : c.outbox.length < outboxCapacity)
    (fit : ∀ post ∈ c.advPost? (c.advStep.next c.advWanted), post.Fits) :
    c.stepAdvertising.outbox =
      c.outbox ++ ((c.advPost? (c.advStep.next c.advWanted)).map Post.frame).toList := by
  rw [stepAdvertising_eq]
  exact dispatch_room (c := c.placed _) room fit (c.advPost?_command _) (advPost?_params fit)

theorem stepAdvertising_post (empty : c.outbox = [])
    (fit : ∀ post ∈ c.advPost? (c.advStep.next c.advWanted), post.Fits) :
    c.stepAdvertising.outbox =
      ((c.advPost? (c.advStep.next c.advWanted)).map Post.frame).toList := by
  rw [stepAdvertising_eq]
  exact dispatch_post (c := c.placed _) empty fit (c.advPost?_command _) (advPost?_params fit)

theorem startAdvertising_post (empty : c.outbox = [])
    (fit : ∀ post ∈ c.readvertisePost?, post.Fits) :
    c.startAdvertising.outbox = (c.readvertisePost?.map Post.frame).toList := by
  rw [startAdvertising_eq]
  exact dispatch_post (c := c.placed _) empty fit (c.advPost?_command _) (advPost?_params fit)

theorem finishInit_post (empty : c.outbox = [])
    (fit : ∀ post ∈ c.initPost? .finished, post.Fits) :
    c.finishInit.outbox = ((c.initPost? .finished).map Post.frame).toList := by
  rw [finishInit_eq]
  refine dispatch_post (c := c.placed _) empty fit ?_ fun post posted => ?_
  · simp only [initPost?]
    cases c.clearPairing <;> rfl
  · obtain ⟨-, same⟩ := Option.ite_none_right_eq_some.mp posted
    cases same
    rfl

theorem initPost?_other {step : InitStep} (unadvertised : step ≠ .configureAdvertising)
    (unfinished : step ≠ .finished) :
    c.initPost? step = step.command?.map fun command => ⟨command, c.initParams step, []⟩ := by
  cases step
  case configureAdvertising => exact absurd rfl unadvertised
  case finished => exact absurd rfl unfinished
  all_goals rfl

theorem enterInitStep_post (empty : c.outbox = []) {step : InitStep} (entered : c.initStep = step)
    (fit : ∀ post ∈ c.initPost? step, post.Fits) :
    c.enterInitStep.outbox = ((c.initPost? step).map Post.frame).toList := by
  rcases c.enterInitStep_cases with ⟨here, advertised⟩ | ⟨here, finished⟩ |
    ⟨unadvertised, unfinished, sent⟩
  · obtain rfl : step = .configureAdvertising := entered.symm.trans here
    rw [advertised]
    exact stepAdvertising_post (c := { c with
      awaited := none, advStep := .idle, advWanted := !c.planeMode }) empty fit
  · obtain rfl : step = .finished := entered.symm.trans here
    rw [finished]
    exact finishInit_post empty fit
  · rw [entered] at unadvertised unfinished sent
    rw [initPost?_other unadvertised unfinished] at fit ⊢
    rw [sent]
    refine dispatch_post (c := c.placed _) empty fit ?_ fun post posted => ?_
    · rw [Option.map_map]
      exact Option.map_id'.symm
    · obtain ⟨command, -, rfl⟩ := Option.map_eq_some_iff.mp posted
      rfl

/-- The sequence goes on from whatever step it stands at. -/
theorem stepInit_post (empty : c.outbox = []) (reply : List UInt8)
    (fit : ∀ post ∈ c.stepInitPost? reply, post.Fits) :
    (c.stepInit reply).outbox = ((c.stepInitPost? reply).map Post.frame).toList := by
  unfold stepInitPost? at fit ⊢
  rcases c.stepInit_cases reply with
    ⟨other, handles, learned, entered⟩ | ⟨advertising, unfinished, advertised⟩ |
      ⟨advertising, last, finished⟩
  · rw [if_neg other, learned] at fit ⊢
    rw [entered]
    exact enterInitStep_post (c := { c with
      handles := handles, initStep := c.initStep.next }) empty rfl fit
  · rw [if_pos advertising, if_neg unfinished] at fit ⊢
    rw [advertised]
    exact stepAdvertising_post (c := { c with advWanted := !c.planeMode }) empty fit
  · rw [if_pos advertising, if_pos last] at fit ⊢
    obtain ⟨connected, on, advanced⟩ :=
      Footing.advanced_eq { c.footing with advWanted := !c.planeMode }
    rw [finished, advanced]
    exact finishInit_post (c := c.placed _) empty fit

theorem beginInit_post (c : Core) :
    c.beginInit.outbox = (c.restartPost?.map Post.frame).toList := rfl

theorem switchAdvertising_post (empty : c.outbox = []) {on : Bool}
    (fit : ∀ post ∈ c.switchPost? on, post.Fits) :
    (c.switchAdvertising on).outbox = ((c.switchPost? on).map Post.frame).toList := by
  cases on with
  | true =>
    have fits := fit _ rfl
    rw [switchAdvertising, if_pos rfl, discoverableParams_eq fits]
    exact send_post empty fit
  | false => exact send_post empty fit

theorem notify_post (empty : c.outbox = []) {chunk : List UInt8} {ofMessage : Bool}
    (fit : ∀ post ∈ some (c.chunkPost chunk), post.Fits) :
    (c.notify chunk ofMessage).outbox = ((some (c.chunkPost chunk)).map Post.frame).toList := by
  unfold notify
  cases ofMessage
  · exact send_post empty fit
  · exact send_post (c := { c with
      chunkInFlight := true
      transferTimeout :=
        c.transferTimeout.arm (Settings.microseconds c.settings.transferTimeout) }) empty fit

theorem requestInterval_post (empty : c.outbox = [])
    (fit : ∀ post ∈ c.intervalPost?, post.Fits) :
    c.requestInterval.outbox = (c.intervalPost?.map Post.frame).toList := by
  simp only [requestInterval, intervalPost?] at fit ⊢
  split
  · rename_i due
    rw [if_pos due] at fit
    exact send_post (c := { c with connectionUpdated := true }) empty fit
  · exact empty

theorem finishMessage_post (empty : c.outbox = []) (sending : c.endpoint.isSending = true)
    (fit : ∀ post ∈ c.intervalPost?, post.Fits) :
    c.finishMessage.outbox = (c.intervalPost?.map Post.frame).toList := by
  simp only [finishMessage, sending, Bool.not_true, Bool.false_eq_true, if_false]
  exact requestInterval_post (c := { c with
    endpoint := c.endpoint.finishSend
    txData := []
    transferTimeout := c.transferTimeout.cancel }) empty fit

theorem finishMessage_aborted (empty : c.outbox = []) (aborted : c.endpoint.isSending = false) :
    c.finishMessage.outbox = [] := by
  simp only [finishMessage, aborted, Bool.not_false, if_true]
  exact empty

theorem onNotifyComplete_post (empty : c.outbox = [])
    (fit : ∀ post ∈ c.notifiedPost?, post.Fits) :
    c.onNotifyComplete.outbox = (c.notifiedPost?.map Post.frame).toList := by
  unfold onNotifyComplete
  unfold notifiedPost? at fit ⊢
  by_cases flying : c.chunkInFlight = true
  · simp only [flying, true_and, if_true] at fit ⊢
    by_cases sending : c.endpoint.isSending = true
    · simp only [sending, if_true] at fit ⊢
      have locked := c.endpoint.nextChunk_isSending c.txData
      generalize c.endpoint.nextChunk c.txData = next at *
      obtain ⟨chunk | chunk, endpoint⟩ := next
      · exact finishMessage_post
          (c := { c with chunkInFlight := false, endpoint := endpoint }) empty
          (locked.trans sending) fit
      · exact notify_post (c := { c with chunkInFlight := false, endpoint := endpoint }) empty fit
    · simp only [sending]
      exact finishMessage_aborted (c := { c with chunkInFlight := false }) empty
        (Bool.eq_false_iff.mpr sending)
  · rw [if_neg flying, if_neg fun both => flying both.1]
    exact empty

theorem onWriteAck_post (empty : c.outbox = []) (fit : ∀ post ∈ c.ackedPost?, post.Fits) :
    c.onWriteAck.outbox = (c.ackedPost?.map Post.frame).toList := by
  simp only [onWriteAck, ackedPost?] at fit ⊢
  split
  · rename_i waits
    rw [if_pos waits] at fit
    cases held : c.pending with
    | none => exact empty
    | some waiting =>
      rw [held] at fit
      exact notify_post (c := { c with awaitingWriteAck := false, pending := none }) empty fit
  · exact empty

theorem onAdvertisingSwitched_post (empty : c.outbox = [])
    (fit : ∀ post ∈ c.switchedPost?, post.Fits) :
    c.onAdvertisingSwitched.outbox = (c.switchedPost?.map Post.frame).toList := by
  simp only [onAdvertisingSwitched, switchedPost?, beq_iff_eq] at fit ⊢
  by_cases disabling : c.advRequest = some false
  · simp only [disabling, if_true] at fit ⊢
    split
    · exact beginInit_post _
    · rename_i unconnected
      rw [if_neg unconnected] at fit
      split
      · rename_i renamed
        rw [if_pos renamed] at fit
        exact startAdvertising_post
          (c := { c with advRequest := none, advertising := false }) empty fit
      · exact empty
  · simp only [disabling, if_false]
    split <;> exact empty

theorem onCommandComplete_post (empty : c.outbox = []) {packet : EventPacket}
    (fit : ∀ post ∈ c.completionPost? packet, post.Fits) :
    (c.onCommandComplete packet).outbox = ((c.completionPost? packet).map Post.frame).toList := by
  unfold onCommandComplete
  unfold completionPost? at fit ⊢
  generalize packet.opcode = given at *
  cases given with
  | none => exact empty
  | some opcode =>
    dsimp only at fit ⊢
    cases phase : c.phase <;> simp only [phase] at fit ⊢
    case initializing =>
      split
      · rename_i awaits
        rw [if_pos awaits] at fit
        exact stepInit_post empty _ fit
      · exact empty
    case configuringAdvertising =>
      split
      · rename_i awaits
        rw [if_pos awaits] at fit
        exact stepAdvertising_post empty fit
      · exact empty
    case failed => exact empty
    all_goals
      split
      · rename_i written
        rw [if_pos written] at fit
        exact onWriteAck_post empty fit
      rename_i unwritten
      rw [if_neg unwritten] at fit
      split
      · rename_i notified
        rw [if_pos notified] at fit
        exact onNotifyComplete_post empty fit
      rename_i unnotified
      rw [if_neg unnotified] at fit
      split
      · rename_i switched
        rw [if_pos switched] at fit
        exact onAdvertisingSwitched_post empty fit
      · exact empty

theorem queueNotify_post (empty : c.outbox = []) {chunk : List UInt8} {ofMessage : Bool}
    (fit : ∀ post ∈ if c.awaitingWriteAck then none else some (c.chunkPost chunk), post.Fits) :
    (c.queueNotify chunk ofMessage).outbox =
      ((if c.awaitingWriteAck then none else some (c.chunkPost chunk)).map Post.frame).toList := by
  unfold queueNotify
  split
  · exact empty
  · rename_i free
    rw [if_neg free] at fit
    exact notify_post empty fit

theorem feed_post (empty : c.outbox = []) {chunk : List UInt8}
    (fit : ∀ post ∈ c.feedPost? chunk, post.Fits) :
    (c.feed chunk).outbox = ((c.feedPost? chunk).map Post.frame).toList := by
  unfold feed
  unfold feedPost? at fit ⊢
  generalize c.endpoint.receive chunk = received at *
  obtain ⟨answer, endpoint⟩ := received
  have nothing : (if c.awaitingWriteAck = true then none else none) = (none : Option Post) :=
    ite_self none
  match answer with
  | .ok (.reply reply) => exact queueNotify_post (c := { c with endpoint := endpoint }) empty fit
  | .ok (.channelRequest channel) =>
    exact queueNotify_post (c := { c with endpoint := endpoint }) empty fit
  | .ok .reset =>
    dsimp only
    rw [nothing]
    split <;> exact empty
  | .ok .needMore | .ok (.complete _) | .ok .deferred | .ok .dropped | .ok .ignored
  | .error _ =>
    dsimp only
    rw [nothing]
    exact empty

theorem onSubscription_post (empty : c.outbox = []) {on : Bool}
    (fit : ∀ post ∈ c.subscribedPost? on, post.Fits) :
    (c.onSubscription on).outbox = ((c.subscribedPost? on).map Post.frame).toList := by
  simp only [onSubscription, subscribedPost?] at fit ⊢
  split
  · rename_i asks
    rw [if_pos asks] at fit
    exact send_post (c := { c with notifications := on }) empty fit
  · exact empty

theorem onAttributeModified_post (empty : c.outbox = []) {data : List UInt8}
    (fit : ∀ post ∈ c.modifiedPost? data, post.Fits) :
    (c.onAttributeModified data).outbox = ((c.modifiedPost? data).map Post.frame).toList := by
  simp only [onAttributeModified, modifiedPost?] at fit ⊢
  split
  · exact empty
  · rename_i long
    rw [if_neg long] at fit
    split
    · rename_i subscribes
      rw [if_pos subscribes] at fit
      exact onSubscription_post empty fit
    · rename_i other
      rw [if_neg other] at fit
      split
      · rename_i accepted
        rw [if_pos accepted] at fit
        exact feed_post empty fit
      · exact empty

/-- The write is answered first: while it is, a reply to its value waits. -/
theorem onWritePermit_post (empty : c.outbox = []) {data : List UInt8}
    (fit : ∀ post ∈ permitPost? data, post.Fits) :
    (c.onWritePermit data).outbox = ((permitPost? data).map Post.frame).toList := by
  simp only [onWritePermit, permitPost?] at fit ⊢
  split
  · exact empty
  · rename_i long
    rw [if_neg long] at fit
    refine send_post ?_ fit
    have waits : Core.feedPost? { c with awaitingWriteAck := true } = fun _ => none := rfl
    split
    · have none (chunk : List UInt8) :
          ∀ post ∈ Core.feedPost? { c with awaitingWriteAck := true } chunk, post.Fits := by
        rw [waits]
        rintro post ⟨⟩
      rw [feed_post (c := { c with awaitingWriteAck := true }) empty (none _), waits]
      rfl
    · exact empty

theorem onVendor_post (empty : c.outbox = []) {packet : EventPacket}
    (fit : ∀ post ∈ c.vendorPost? packet, post.Fits) :
    (c.onVendor packet).outbox = ((c.vendorPost? packet).map Post.frame).toList := by
  simp only [onVendor, vendorPost?] at fit ⊢
  split
  · exact empty
  · rename_i mine
    rw [if_neg mine] at fit
    generalize packet.vendorCode.bind VendorEvent.ofCode? = event at *
    cases event with
    | none => exact empty
    | some event =>
      cases event with
      | attributeModified => exact onAttributeModified_post empty fit
      | writePermitRequest => exact onWritePermit_post empty fit
      | indication => exact send_post empty fit
      | procedureTimeout => exact beginInit_post _
      | pairingComplete | passKeyRequest | numericComparison | exchangeMtuResponse
      | connectionUpdateResponse | txPoolAvailable => exact empty

theorem onLeMeta_outbox (c : Core) (params : List UInt8) :
    (c.onLeMeta params).outbox = c.outbox := by
  rcases c.onLeMeta_cases params with ⟨connection, same⟩ | ⟨position, same⟩
  · rw [same]
  · rw [same]
    rfl

theorem onPacket_post (empty : c.outbox = []) {packet : EventPacket}
    (fit : ∀ post ∈ c.packetPost? packet, post.Fits) :
    (c.onPacket packet).outbox = ((c.packetPost? packet).map Post.frame).toList := by
  unfold onPacket
  unfold packetPost? at fit ⊢
  cases kind : packet.kind <;> simp only [kind] at fit ⊢
  case commandComplete => exact onCommandComplete_post empty fit
  case commandStatus => exact empty
  case leMeta => exact (c.onLeMeta_outbox _).trans empty
  case hardwareError => exact beginInit_post c
  case asynchronous =>
    split
    · rename_i gone
      rw [if_pos gone] at fit
      simp only [onDisconnect]
      split
      · exact beginInit_post _
      · rename_i other
        rw [if_neg other] at fit
        exact startAdvertising_post empty fit
    · rename_i here
      rw [if_neg here] at fit
      split
      · rename_i encryption
        have vendor : packet.code ≠ EventCode.vendor := by
          rw [encryption]
          decide
        rw [if_neg vendor, onEncryptionChange]
        split <;> exact empty
      · split
        · rename_i vendor
          rw [if_pos vendor] at fit
          exact onVendor_post empty fit
        · exact empty

theorem sendMessage_post (empty : c.outbox = []) {data : List UInt8}
    (fit : ∀ post ∈ c.messagePost? data, post.Fits) :
    (c.sendMessage data).2.outbox = ((c.messagePost? data).map Post.frame).toList := by
  unfold sendMessage
  unfold messagePost? at fit ⊢
  by_cases client : c.connection.isConnected = true
  · rw [if_pos client]
    rcases c.endpoint.beginSend_cases data.length with ⟨error, refused⟩ | ⟨free, begun⟩
    · -- Either the endpoint sends already or the message is far too long.
      have excluded : ¬(c.endpoint.isSending = false ∧ data.length ≤ messageCapacity) := by
        rintro ⟨free, short⟩
        have lock : c.endpoint.session.lock.sending = false := free
        have counted : ¬65535 < data.length := by
          have capacity : messageCapacity = 260 := rfl
          omega
        simp [Endpoint.beginSend, counted, SendLock.acquire, lock] at refused
      rw [refused, if_neg fun all => excluded ⟨Bool.eq_false_iff.mpr all.2.1, all.2.2.1⟩]
      exact empty
    · simp only [begun]
      split
      · rename_i long
        rw [if_neg fun all => Nat.not_lt.mpr all.2.2.1 long]
        exact empty
      · rename_i short
        have able : (c.connection.isConnected = true ∧ ¬c.endpoint.isSending = true ∧
            data.length ≤ messageCapacity ∧ ¬c.awaitingWriteAck = true) ↔
            ¬c.awaitingWriteAck = true := by
          simp only [client, free, Nat.not_lt.mp short, true_and, Bool.false_eq_true,
            not_false_eq_true]
        simp only [able] at fit ⊢
        generalize (c.endpoint.begun data.length).nextChunk data = next at *
        obtain ⟨chunk | chunk, endpoint⟩ := next
        · have nothing : (if ¬c.awaitingWriteAck = true then
              Option.map c.chunkPost none else none) = none := ite_self none
          rw [nothing]
          exact empty
        · have either : (if ¬c.awaitingWriteAck = true then
              Option.map c.chunkPost (some chunk) else none) =
              if c.awaitingWriteAck then none else some (c.chunkPost chunk) := ite_not ..
          rw [either] at fit ⊢
          exact queueNotify_post (c := { c with endpoint := endpoint, txData := data }) empty fit
  · rw [if_neg client, if_neg fun all => client all.1]
    exact empty

theorem respond_post (empty : c.outbox = []) {answer : PairingAnswer}
    (fit : ∀ post ∈ c.answerPost? answer, post.Fits) :
    (c.respond answer).outbox = ((c.answerPost? answer).map Post.frame).toList := by
  unfold respond
  unfold answerPost? at fit ⊢
  generalize c.pairing.respond answer = answered at *
  obtain ⟨reply, pairing⟩ := answered
  match reply with
  | some (.passkey code) => exact send_post (c := { c with pairing := pairing }) empty fit
  | some (.confirm yes) => exact send_post (c := { c with pairing := pairing }) empty fit
  | none => exact empty

/-- Every command of an input is queued, whole and in its place. -/
theorem step_post (empty : c.outbox = []) {input : Input}
    (fit : ∀ post ∈ c.post? input, post.Fits) :
    (c.step input).outbox = ((c.post? input).map Post.frame).toList := by
  cases input with
  | beginInit => exact beginInit_post c
  | packet packet => exact onPacket_post empty fit
  | tick =>
    simp only [step, onTick]
    split <;> exact empty
  | nextCommand =>
    simp only [step, nextCommand, empty]
    rfl
  | commandDropped =>
    simp only [step, commandDropped]
    split <;> first | exact empty | rfl
  | poll | setDeviceName | setPlaneMode | nextPairingMessage => exact empty
  | sendMessage data => exact sendMessage_post empty fit
  | enableAdvertising on =>
    simp only [step, post?, enableAdvertising] at fit ⊢
    split
    · rename_i ready
      split
      · rename_i waits
        rw [if_neg fun all => all.2 waits]
        exact empty
      · rename_i now
        rw [if_pos ⟨ready, now⟩] at fit ⊢
        exact switchAdvertising_post (c := { c with advRequest := some on }) empty fit
    · rename_i unready
      rw [if_neg fun all => unready all.1]
      exact empty
  | resetPairings =>
    simp only [step, post?, resetPairings] at fit ⊢
    split
    · rename_i ready
      rw [if_pos ready] at fit
      split
      · exact beginInit_post _
      · rename_i unconnected
        rw [if_neg unconnected] at fit
        exact send_post empty fit
    · exact empty
  | respond answer => exact respond_post empty fit

end Controller.Core

end CardLink
