import CardLink.Proofs.Controller.Effects
import CardLink.Proofs.Controller.Posting

namespace CardLink.Controller

/-- The command asks for a shorter connection interval. -/
def Post.AsksInterval (post? : Option Post) : Prop :=
  ∃ post ∈ post?, post.command = .updateConnection

/-- A client connects, or everything starts over and there is no connection any more. -/
def Effect.Renews (effect : Effect) : Prop := effect = .connected ∨ effect = .restarted

namespace Core

open Post Effect

variable {c : Core}

theorem connectionUpdated_congr {after : Core} (same : after.surroundings = c.surroundings) :
    after.connectionUpdated = c.connectionUpdated :=
  (congrArg connectionUpdated same :)

@[simp]
theorem send_connectionUpdated (c : Core) (command : Command) (params : List UInt8) :
    (c.send command params).connectionUpdated = c.connectionUpdated :=
  connectionUpdated_congr (send_surroundings c command params)

@[simp]
theorem notify_connectionUpdated (c : Core) (chunk : List UInt8) (ofMessage : Bool) :
    (c.notify chunk ofMessage).connectionUpdated = c.connectionUpdated :=
  connectionUpdated_congr (notify_surroundings c chunk ofMessage)

theorem Sequenced.connectionUpdated {after : Core} (sequenced : c.Sequenced after) :
    after.connectionUpdated = c.connectionUpdated := by
  obtain ⟨f, command?, params, rfl, -⟩ := sequenced
  exact (connectionUpdated_congr (dispatch_surroundings (c.placed f) command? params)).trans rfl

theorem beginInit_connectionUpdated (c : Core) : c.beginInit.connectionUpdated = false := rfl

theorem onAttributeModified_connectionUpdated (c : Core) (data : List UInt8) :
    (c.onAttributeModified data).connectionUpdated = c.connectionUpdated :=
  connectionUpdated_congr (onAttributeModified_surroundings c data)

theorem onWritePermit_connectionUpdated (c : Core) (data : List UInt8) :
    (c.onWritePermit data).connectionUpdated = c.connectionUpdated :=
  connectionUpdated_congr (onWritePermit_surroundings c data)

theorem onWriteAck_connectionUpdated (c : Core) :
    c.onWriteAck.connectionUpdated = c.connectionUpdated :=
  connectionUpdated_congr (onWriteAck_surroundings c)

theorem sendMessage_connectionUpdated (c : Core) (data : List UInt8) :
    (c.sendMessage data).2.connectionUpdated = c.connectionUpdated :=
  connectionUpdated_congr (sendMessage_surroundings c data)

/-- A message that has gone out is the only occasion for the request. -/
theorem finishMessage_connectionUpdated (c : Core) : c.finishMessage.connectionUpdated =
    (c.connectionUpdated || c.endpoint.isSending && c.intervalPost?.isSome) := by
  simp only [finishMessage]
  cases c.endpoint.isSending
  · simp
  · simp only [Bool.not_true, Bool.false_eq_true, if_false, Bool.true_and, requestInterval,
      intervalPost?]
    split <;> simp

/-- An input with this command and this effect leaves the memory of the request so. -/
def Recalls (c : Core) (post? : Option Post) (effect : Effect) (after : Core) : Prop :=
  after.connectionUpdated = true ↔
    AsksInterval post? ∨ c.connectionUpdated = true ∧ ¬effect.Renews

theorem recalls_kept {post? : Option Post} {effect : Effect} {after : Core}
    (same : after.connectionUpdated = c.connectionUpdated) (other : ¬AsksInterval post?)
    (still : ¬effect.Renews) : c.Recalls post? effect after := by
  simp only [Recalls, same, other, still, false_or, not_false_eq_true, and_true]

theorem recalls_renewed {post? : Option Post} {effect : Effect} {after : Core}
    (none : after.connectionUpdated = false) (other : ¬AsksInterval post?)
    (renews : effect.Renews) : c.Recalls post? effect after := by
  simp only [Recalls, none, other, renews, not_true, and_false, or_false, Bool.false_eq_true]

@[simp]
theorem not_asksInterval_none : ¬AsksInterval none := by rintro ⟨post, ⟨⟩, -⟩

theorem recalls_silent {effect : Effect} {after : Core}
    (same : after.connectionUpdated = c.connectionUpdated) (still : ¬effect.Renews) :
    c.Recalls none effect after :=
  recalls_kept same not_asksInterval_none still

@[simp]
theorem asksInterval_some {post : Post} :
    AsksInterval (some post) ↔ post.command = .updateConnection := by
  simp [AsksInterval]

theorem asksInterval_intervalPost? (c : Core) :
    AsksInterval c.intervalPost? ↔ c.intervalPost?.isSome = true := by
  simp only [intervalPost?]
  split <;> simp

theorem not_asksInterval_advPost? (c : Core) (step : AdvStep) :
    ¬AsksInterval (c.advPost? step) := by
  cases step <;> simp [advPost?, advDataPost, scanResponsePost, namePost, discoverablePost]

theorem not_asksInterval_initPost? (c : Core) (step : InitStep) :
    ¬AsksInterval (c.initPost? step) := by
  cases step
  case configureAdvertising => exact c.not_asksInterval_advPost? .setAdvData
  case finished =>
    simp only [initPost?]
    split <;> simp
  all_goals simp [initPost?, InitStep.command?]

theorem beginInit_recalls (c before : Core) :
    c.Recalls c.restartPost? .restarted before.beginInit :=
  recalls_renewed before.beginInit_connectionUpdated (c.not_asksInterval_initPost? .reset)
    (.inr rfl)

theorem not_asksInterval_stepInitPost? (c : Core) (reply : List UInt8) :
    ¬AsksInterval (c.stepInitPost? reply) := by
  unfold stepInitPost?
  split
  · split
    · exact not_asksInterval_initPost? _ _
    · exact not_asksInterval_advPost? _ _
  · exact not_asksInterval_initPost? _ _

theorem not_asksInterval_switchPost? (c : Core) (on : Bool) : ¬AsksInterval (c.switchPost? on) := by
  cases on <;> simp [switchPost?, discoverablePost]

theorem not_asksInterval_feedPost? (c : Core) (value : List UInt8) :
    ¬AsksInterval (c.feedPost? value) := by
  unfold feedPost?
  split
  · exact not_asksInterval_none
  · split <;> simp [chunkPost]

theorem not_asksInterval_modifiedPost? (c : Core) (data : List UInt8) :
    ¬AsksInterval (c.modifiedPost? data) := by
  simp only [modifiedPost?, subscribedPost?]
  split
  · exact not_asksInterval_none
  · split
    · split <;> simp
    · split
      · exact not_asksInterval_feedPost? c _
      · exact not_asksInterval_none

theorem not_asksInterval_permitPost? (data : List UInt8) : ¬AsksInterval (permitPost? data) := by
  simp only [permitPost?]
  split <;> simp

theorem onNotifyComplete_recalls (c : Core) :
    c.Recalls c.notifiedPost? .notified c.onNotifyComplete := by
  unfold onNotifyComplete notifiedPost?
  by_cases flying : c.chunkInFlight = true
  · simp only [flying, true_and, if_true]
    by_cases sending : c.endpoint.isSending = true
    · simp only [sending, if_true]
      have locked := c.endpoint.nextChunk_isSending c.txData
      generalize c.endpoint.nextChunk c.txData = next at *
      obtain ⟨chunk | chunk, endpoint⟩ := next
      · have asked := finishMessage_connectionUpdated
          { c with chunkInFlight := false, endpoint := endpoint }
        have still : endpoint.isSending = true := locked.trans sending
        rw [still, Bool.true_and] at asked
        simp only [Recalls, asked, asksInterval_intervalPost?, Bool.or_eq_true, Renews,
          reduceCtorEq, or_self, not_false_eq_true, and_true]
        exact or_comm
      · exact recalls_kept (notify_connectionUpdated _ _ _) (by simp [chunkPost])
          (by simp [Renews])
    · simp only [sending]
      refine recalls_silent ?_ (by simp [Renews])
      refine (finishMessage_connectionUpdated _).trans ?_
      simp only [Bool.eq_false_iff.mpr sending, Bool.false_and, Bool.or_false]
  · simp only [flying, Bool.false_eq_true, false_and, if_false]
    exact recalls_silent rfl (by simp [Renews])

theorem onAdvertisingSwitched_recalls (c : Core) : c.Recalls c.switchedPost?
    (if c.advRequest = some false then
      if c.connection.isConnected then .restarted else .sequenced
    else .other) c.onAdvertisingSwitched := by
  by_cases disabling : c.advRequest = some false
  · by_cases client : c.connection.isConnected = true
    · simp only [onAdvertisingSwitched, switchedPost?, client, disabling, beq_self_eq_true, if_true]
      exact beginInit_recalls c _
    · simp only [onAdvertisingSwitched, switchedPost?, client, disabling, beq_self_eq_true,
        Bool.false_eq_true, if_true, if_false]
      split
      · exact recalls_kept (startAdvertising_sequenced _).connectionUpdated
          (not_asksInterval_advPost? _ _) (by simp [Renews])
      · exact recalls_silent rfl (by simp [Renews])
  · have enabling : (c.advRequest == some false) = false := beq_false_of_ne disabling
    simp only [onAdvertisingSwitched, switchedPost?, disabling, enabling, Bool.false_eq_true,
      if_false]
    split <;> exact recalls_silent rfl (by simp [Renews])

theorem onCommandComplete_recalls (c : Core) (packet : EventPacket) :
    c.Recalls (c.completionPost? packet) (c.completionEffect packet)
      (c.onCommandComplete packet) := by
  unfold onCommandComplete completionPost? completionEffect
  generalize packet.opcode = given
  cases given with
  | none =>
    refine recalls_kept rfl not_asksInterval_none ?_
    split <;> simp [Renews]
  | some opcode =>
    cases phase : c.phase <;>
      simp only [reduceCtorEq, or_self, or_true, true_or, if_true, if_false]
    case initializing =>
      split
      · exact recalls_kept (c.stepInit_sequenced _).connectionUpdated
          (not_asksInterval_stepInitPost? c _) (by simp [Renews])
      · exact recalls_silent rfl (by simp [Renews])
    case configuringAdvertising =>
      split
      · exact recalls_kept c.stepAdvertising_sequenced.connectionUpdated
          (not_asksInterval_advPost? c _) (by simp [Renews])
      · exact recalls_silent rfl (by simp [Renews])
    case failed => exact recalls_silent rfl (by simp [Renews])
    all_goals
      split
      · refine recalls_kept (onWriteAck_connectionUpdated c) ?_ (by simp [Renews])
        unfold ackedPost?
        split
        · cases c.pending <;> simp [chunkPost]
        · exact not_asksInterval_none
      · split
        · exact onNotifyComplete_recalls c
        · split
          · exact onAdvertisingSwitched_recalls c
          · exact recalls_silent rfl (by simp [Renews])

theorem onLeMeta_recalls (c : Core) (params : List UInt8) :
    c.Recalls none (leEffect params) (c.onLeMeta params) := by
  unfold onLeMeta leEffect
  match params.head?.bind LeEvent.ofCode? with
  | some .connectionComplete | some .enhancedConnectionComplete =>
    dsimp only
    split
    · exact recalls_renewed rfl not_asksInterval_none (.inl rfl)
    · exact recalls_silent rfl (by simp [Renews])
  | some .connectionUpdateComplete | none =>
    exact recalls_silent rfl (by simp [Renews])
  | some .dataLengthChange =>
    refine recalls_silent ?_ (by simp [Renews])
    simp only [onDataLength]
    split <;> rfl
  | some .phyUpdateComplete =>
    refine recalls_silent ?_ (by simp [Renews])
    simp only [onPhyUpdate]
    split <;> rfl

theorem onVendor_recalls (c : Core) (packet : EventPacket) :
    c.Recalls (c.vendorPost? packet) (c.vendorEffect packet) (c.onVendor packet) := by
  simp only [onVendor, vendorPost?, vendorEffect]
  split
  · exact recalls_silent rfl (by simp [Renews])
  · rcases packet.vendorCode.bind VendorEvent.ofCode? with _ | event
    · exact recalls_silent rfl (by simp [Renews])
    · cases event with
      | attributeModified =>
        refine recalls_kept (onAttributeModified_connectionUpdated c _)
          (not_asksInterval_modifiedPost? c _) ?_
        grind [modificationEffect, Renews]
      | writePermitRequest =>
        refine recalls_kept (onWritePermit_connectionUpdated c _)
          (not_asksInterval_permitPost? _) ?_
        grind [permitEffect, Renews]
      | procedureTimeout =>
        exact beginInit_recalls c _
      | indication =>
        exact recalls_kept (send_connectionUpdated _ _ _) (by simp) (by simp [Renews])
      | _ => exact recalls_silent rfl (by simp [Renews])

theorem onDisconnect_recalls (c : Core) (params : List UInt8) :
    c.Recalls (if params[3]?.getD 0 = reasonInstantPassed then c.restartPost?
        else c.readvertisePost?)
      (if params[3]?.getD 0 = reasonInstantPassed then .restarted else .disconnected)
      (c.onDisconnect params) := by
  simp only [onDisconnect]
  split
  · exact beginInit_recalls c _
  · exact recalls_kept (startAdvertising_sequenced _).connectionUpdated
      (not_asksInterval_advPost? _ _) (by simp [Renews])

theorem onPacket_recalls (c : Core) (packet : EventPacket) :
    c.Recalls (c.packetPost? packet) (c.packetEffect packet) (c.onPacket packet) := by
  simp only [onPacket, packetPost?, packetEffect]
  cases packet.kind with
  | commandComplete => exact onCommandComplete_recalls c packet
  | commandStatus => exact recalls_silent rfl (by simp [Renews])
  | leMeta _ => exact onLeMeta_recalls c _
  | hardwareError =>
    exact beginInit_recalls c _
  | asynchronous =>
    dsimp only
    split
    · exact onDisconnect_recalls c _
    · split
      · rename_i vendor
        have plain : packet.code ≠ EventCode.encryptionChange := by
          rw [vendor]
          decide
        rw [if_neg plain, if_neg plain]
        exact onVendor_recalls c packet
      · refine recalls_silent ?_ ?_
        · unfold onEncryptionChange
          split
          · split <;> rfl
          · rfl
        · split
          · split <;> simp [Renews]
          · simp [Renews]

theorem step_recalls (c : Core) (input : Input) :
    c.Recalls (c.post? input) (c.effect input) (c.step input) := by
  cases input with
  | beginInit =>
    exact beginInit_recalls c _
  | packet packet => exact onPacket_recalls c packet
  | tick =>
    refine recalls_silent ?_ (by simp [Core.effect, Renews])
    simp only [step, onTick]
    split <;> rfl
  | poll | setDeviceName | setPlaneMode | nextPairingMessage =>
    exact recalls_silent rfl (by simp [Core.effect, Renews])
  | nextCommand =>
    refine recalls_silent ?_ (by simp [Core.effect, Renews])
    simp only [step, nextCommand]
    split <;> rfl
  | commandDropped =>
    refine recalls_silent ?_ (by simp [Core.effect, Renews])
    simp only [step, commandDropped]
    split <;> rfl
  | sendMessage data =>
    refine recalls_kept (sendMessage_connectionUpdated c data) ?_ (by simp [Core.effect, Renews])
    simp only [post?, messagePost?]
    split
    · cases ((c.endpoint.begun data.length).nextChunk data).1 <;> simp [chunkPost]
    · exact not_asksInterval_none
  | enableAdvertising on =>
    refine recalls_kept ?_ ?_ (by simp [Core.effect, Renews])
    · simp only [step, enableAdvertising, switchAdvertising]
      split
      · split
        · rfl
        · split <;> exact send_connectionUpdated _ _ _
      · rfl
    · simp only [post?]
      split
      · exact not_asksInterval_switchPost? c on
      · exact not_asksInterval_none
  | resetPairings =>
    simp only [step, resetPairings, post?, effect]
    by_cases ready : c.ready = true
    · by_cases client : c.connection.isConnected = true
      · simp only [ready, client, and_self, if_true]
        exact beginInit_recalls c _
      · simp only [ready, client, and_false, Bool.false_eq_true, if_true, if_false]
        exact recalls_kept (send_connectionUpdated _ _ _) (by simp) (by simp [Renews])
    · simp only [ready, Bool.false_eq_true, false_and, if_false]
      exact recalls_silent rfl (by simp [Renews])
  | respond answer =>
    refine recalls_kept ?_ ?_ (by simp [Core.effect, Renews])
    · simp only [step, respond]
      split <;> simp
    · simp only [post?, answerPost?]
      split <;> simp

end Core

/-- The link asks its client for the shortest connection interval, whether or not the outbox has
room for the request. -/
def AsksInterval (event : Core × Input) : Prop := Post.AsksInterval (event.1.post? event.2)

def Renews (event : Core × Input) : Prop := (event.1.effect event.2).Renews

variable {settings : Settings} {random : RandomSource} {name : String} {address : List UInt8}
  {planeMode : Bool} {past : List (Core × Input)} {c : Core}

/-- What the link remembers is whether it has asked its client. -/
theorem Run.connectionUpdated_iff
    (run : Run (.create settings random name address planeMode) past c) :
    c.connectionUpdated = true ↔ Since AsksInterval Renews past := by
  induction run with
  | start => exact iff_of_false Bool.false_ne_true not_since_nil
  | next _ input ih =>
    rw [since_append, ← ih]
    exact Core.step_recalls _ input

end CardLink.Controller
