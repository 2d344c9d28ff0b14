import CardLink.Proofs.Controller.Run
import CardLink.Proofs.Controller.Transfers

namespace CardLink.Controller

inductive Effect where
  /-- The initialisation is started, or started again. -/
  | restarted
  /-- A client has connected. -/
  | connected
  /-- The connection is lost, and the initialisation is not started again. -/
  | disconnected
  /-- The host has switched notifications. -/
  | subscribed (on : Bool)
  /-- The encryption of the current connection has been switched. -/
  | encrypted (on : Bool)
  | tuned (mtu : Nat)
  /-- The host's bytes reach the endpoint; a write permit is to be answered as well. -/
  | written (permit : Bool) (value : List UInt8)
  /-- A write permit that is answered and has no other effect. -/
  | permitted
  /-- The controller has completed a write response. -/
  | writeAcknowledged
  /-- The controller has completed the writing of a characteristic. -/
  | notified
  | ticked
  | polled
  | sent (data : List UInt8)
  /-- A sequence goes on, outside a live link. -/
  | sequenced
  /-- Nothing of the exchange changes. -/
  | other
  deriving DecidableEq, Repr

/-- What there was of a connection is void: the host has connected anew, is gone, or everything
starts over. -/
def Effect.Severs (effect : Effect) : Prop :=
  effect = .restarted ∨ effect = .connected ∨ effect = .disconnected

namespace Core

/-- A completed command counts only outside the running sequences. -/
def completionEffect (c : Core) (packet : EventPacket) : Effect :=
  if c.phase = .idle ∨ c.phase = .ready then
    match packet.opcode with
    | none => .other
    | some opcode =>
      if opcode = Command.writeResponse.opcode then .writeAcknowledged
      else if opcode = Command.updateCharValue.opcode then .notified
      else if opcode = Command.setNonDiscoverable.opcode ∨
          opcode = Command.setDiscoverable.opcode then
        if c.advRequest = some false then
          if c.connection.isConnected then .restarted else .sequenced
        else .other
      else .other
  else .sequenced

def leEffect (params : List UInt8) : Effect :=
  match params.head?.bind LeEvent.ofCode? with
  | some .connectionComplete | some .enhancedConnectionComplete =>
    if params[1]?.getD 0xFF = 0 then .connected else .other
  | some .connectionUpdateComplete | some .dataLengthChange | some .phyUpdateComplete | none =>
    .other

/-- Connection, attribute, offset, length, value. -/
def modificationEffect (c : Core) (data : List UInt8) : Effect :=
  let attr := Word.littleAt data 2
  let length := (Word.littleAt data 6).toNat
  let value := (data.drop 8).take length
  if data.length < 8 then .other
  else if attr = c.handles.notify + 2 ∧ length = 2 ∧ Word.littleAt data 4 = 0 then
    .subscribed (Word.littleAt value 0 != 0)
  else if attr = c.handles.writeCommand + 1 ∧ c.acceptsWrites ∧ value ≠ [] then
    .written false value
  else .other

/-- Connection, attribute, length, value. -/
def permitEffect (c : Core) (data : List UInt8) : Effect :=
  let value := (data.drop 5).take (data[4]?.getD 0).toNat
  if data.length < 5 then .other
  else if Word.littleAt data 2 = c.handles.write + 1 ∧ c.acceptsWrites ∧ value ≠ [] then
    .written true value
  else .permitted

def vendorEffect (c : Core) (packet : EventPacket) : Effect :=
  let data := packet.vendorData
  if data.length < 2 ∨ Word.littleAt data 0 ≠ c.connection.handle then .other
  else
    match packet.vendorCode.bind VendorEvent.ofCode? with
    | some .attributeModified => c.modificationEffect data
    | some .exchangeMtuResponse => .tuned (Word.littleAt data 2).toNat
    | some .writePermitRequest => c.permitEffect data
    | some .procedureTimeout => .restarted
    | some .pairingComplete | some .passKeyRequest | some .numericComparison
    | some .connectionUpdateResponse | some .indication | some .txPoolAvailable | none => .other

def packetEffect (c : Core) (packet : EventPacket) : Effect :=
  match packet.kind with
  | .commandComplete => c.completionEffect packet
  | .commandStatus => .other
  | .leMeta _ => leEffect packet.params
  | .hardwareError => .restarted
  | .asynchronous =>
    if packet.code = EventCode.disconnectionComplete then
      if packet.params[3]?.getD 0 = reasonInstantPassed then .restarted else .disconnected
    else if packet.code = EventCode.encryptionChange then
      if Word.littleAt packet.params 1 = c.connection.handle then
        .encrypted (packet.params[3]?.getD 0 != 0)
      else .other
    else if packet.code = EventCode.vendor then c.vendorEffect packet
    else .other

def effect (c : Core) : Input → Effect
  | .beginInit => .restarted
  | .packet packet => c.packetEffect packet
  | .tick => .ticked
  | .poll => .polled
  | .sendMessage data => .sent data
  | .resetPairings => if c.ready ∧ c.connection.isConnected then .restarted else .other
  | .nextCommand | .commandDropped | .enableAdvertising _ | .setDeviceName _ | .setPlaneMode _
  | .respond _ | .nextPairingMessage => .other

/-- A client is connected, and no sequence is running. -/
def Live (c : Core) : Prop := c.phase = .ready ∧ c.connection.isConnected = true

instance (c : Core) : Decidable c.Live := inferInstanceAs (Decidable (_ ∧ _))

/-- What becomes of the exchange. -/
inductive Shift (c : Core) : Effect → Exchange → Prop
  | restarted :
      Shift c .restarted
        { c.exchange.severed (c.endpoint.layout.resetMtu c.settings.initialChunkLength) with
          notices := [] }
  | connected :
      Shift c .connected
        (c.exchange.severed (c.endpoint.layout.resetMtu c.settings.initialChunkLength))
  | disconnected (notices : List (List UInt8)) :
      Shift c .disconnected
        { c.exchange.severed c.endpoint.layout with notices := notices }
  | subscribed (on : Bool) : Shift c (.subscribed on) { c.exchange with notifications := on }
  | encrypted (on : Bool) : Shift c (.encrypted on) { c.exchange with encrypted := on }
  | tuned (mtu : Nat) : Shift c (.tuned mtu) (c.exchange.retuned (c.endpoint.layout.setAttMtu mtu))
  | written (permit : Bool) (value : List UInt8) (granted : c.acceptsWrites = true)
      {after : Exchange}
      (fed : { c.exchange with awaitingWriteAck := c.awaitingWriteAck || permit }.Fed value after) :
      Shift c (.written permit value) after
  | permitted : Shift c .permitted { c.exchange with awaitingWriteAck := true }
  | writeAcknowledged {after : Exchange} (answered : c.exchange.Answered after) :
      Shift c .writeAcknowledged after
  | notified {after : Exchange} (acknowledged : c.exchange.Acknowledged after) :
      Shift c .notified after
  | ticked {after : Exchange} (ticked : c.exchange.Ticked after) : Shift c .ticked after
  | polled : Shift c .polled { c.exchange with endpoint := c.endpoint.takeComplete.2 }
  | sent (data : List UInt8) {after : Exchange}
      (sent : c.exchange.Sent data (c.sendMessage data).1 after) : Shift c (.sent data) after
  | sequenced (away : ¬c.Live) (notices : List (List UInt8)) :
      Shift c .sequenced { c.exchange with notices := notices }
  | other (notices : List (List UInt8)) (fewer : notices <:+ c.notices) :
      Shift c .other { c.exchange with notices := notices }

theorem Shift.same {c after : Core} (same : after.exchange = c.exchange) :
    c.Shift .other after.exchange := by
  rw [same]
  exact .other c.notices (List.suffix_refl _)

theorem Shift.away {c after : Core} (same : after.exchange.unqueued = c.exchange.unqueued)
    (away : ¬c.Live) : c.Shift .sequenced after.exchange := by
  rw [Exchange.eq_of_unqueued same]
  exact .sequenced away _

theorem onAdvertisingSwitched_shift (c : Core) : c.Shift
    (if c.advRequest = some false then
      if c.connection.isConnected then .restarted else .sequenced
    else .other) c.onAdvertisingSwitched.exchange := by
  by_cases disabling : c.advRequest = some false
  · by_cases client : c.connection.isConnected = true
    · simp only [onAdvertisingSwitched, client, disabling, beq_self_eq_true, if_true]
      rw [beginInit_exchange]
      exact .restarted
    · have away : ¬c.Live := fun live => client live.2
      simp only [onAdvertisingSwitched, client, disabling, beq_self_eq_true, Bool.false_eq_true,
        if_true, if_false]
      split
      · exact .away (startAdvertising_sequenced _).unqueued away
      · exact .away rfl away
  · have enabling : (c.advRequest == some false) = false := beq_false_of_ne disabling
    simp only [onAdvertisingSwitched, disabling, enabling, Bool.false_eq_true, if_false]
    split <;> exact .same rfl

theorem onCommandComplete_shift (c : Core) (packet : EventPacket) :
    c.Shift (c.completionEffect packet) (c.onCommandComplete packet).exchange := by
  match answered : packet.opcode with
  | none =>
    simp only [onCommandComplete, completionEffect, answered]
    split
    · exact .same rfl
    · rename_i running
      exact .away rfl fun live => running (.inr live.1)
  | some opcode =>
    cases phase : c.phase with
    | initializing =>
      simp only [onCommandComplete, completionEffect, answered, phase, reduceCtorEq, or_self,
        if_false]
      have away : ¬c.Live := fun live => absurd (phase.symm.trans live.1) (by decide)
      split
      · exact .away (c.stepInit_sequenced _).unqueued away
      · exact .away rfl away
    | configuringAdvertising =>
      simp only [onCommandComplete, completionEffect, answered, phase, reduceCtorEq, or_self,
        if_false]
      have away : ¬c.Live := fun live => absurd (phase.symm.trans live.1) (by decide)
      split
      · exact .away c.stepAdvertising_sequenced.unqueued away
      · exact .away rfl away
    | failed =>
      simp only [onCommandComplete, completionEffect, answered, phase, reduceCtorEq, or_self,
        if_false]
      exact .away rfl fun live => absurd (phase.symm.trans live.1) (by decide)
    | idle | ready =>
      simp only [onCommandComplete, completionEffect, answered, phase, reduceCtorEq, or_true,
        or_false, if_true]
      split
      · exact .writeAcknowledged (onWriteAck_answered c)
      · split
        · exact .notified (onNotifyComplete_acknowledged c)
        · by_cases switch : opcode = Command.setNonDiscoverable.opcode ∨
              opcode = Command.setDiscoverable.opcode
          · simp only [switch, if_true]
            exact onAdvertisingSwitched_shift c
          · simp only [switch, if_false]
            exact .same rfl

theorem onLeMeta_shift (c : Core) (params : List UInt8) :
    c.Shift (leEffect params) (c.onLeMeta params).exchange := by
  unfold onLeMeta leEffect
  match params.head?.bind LeEvent.ofCode? with
  | some .connectionComplete | some .enhancedConnectionComplete =>
    dsimp only
    split
    · exact .connected
    · exact .same rfl
  | some .connectionUpdateComplete => exact .same rfl
  | some .dataLengthChange =>
    refine .same ?_
    simp only [onDataLength]
    split <;> rfl
  | some .phyUpdateComplete =>
    refine .same ?_
    simp only [onPhyUpdate]
    split <;> rfl
  | none => exact .same rfl

theorem onAttributeModified_shift (c : Core) (data : List UInt8) :
    c.Shift (c.modificationEffect data) (c.onAttributeModified data).exchange := by
  simp only [onAttributeModified, modificationEffect, onSubscription]
  split
  · exact .same rfl
  · split
    · split
      · rw [send_exchange _ (by decide)]
        exact .subscribed _
      · exact .subscribed _
    · split
      · rename_i accepted
        refine .written false _ accepted.2.1 ?_
        rw [Bool.or_false]
        exact feed_fed c _
      · exact .same rfl

theorem onWritePermit_shift (c : Core) (data : List UInt8) :
    c.Shift (c.permitEffect data) (c.onWritePermit data).exchange := by
  simp only [onWritePermit, permitEffect]
  split
  · exact .same rfl
  · rw [send_exchange _ (by decide)]
    have accepts : Core.acceptsWrites { c with awaitingWriteAck := true } = c.acceptsWrites := rfl
    rw [accepts]
    split
    · rename_i accepted
      refine .written true _ accepted.2.1 ?_
      rw [Bool.or_true]
      exact feed_fed { c with awaitingWriteAck := true } _
    · exact .permitted

theorem onVendor_shift (c : Core) (packet : EventPacket) :
    c.Shift (c.vendorEffect packet) (c.onVendor packet).exchange := by
  simp only [onVendor, vendorEffect]
  split
  · exact .same rfl
  · match packet.vendorCode.bind VendorEvent.ofCode? with
    | some .attributeModified => exact onAttributeModified_shift c _
    | some .writePermitRequest => exact onWritePermit_shift c _
    | some .exchangeMtuResponse => exact .tuned _
    | some .procedureTimeout =>
      dsimp only
      rw [beginInit_exchange]
      exact .restarted
    | some .indication => exact .same (send_exchange c (by decide) _)
    | some .pairingComplete | some .passKeyRequest | some .numericComparison
    | some .connectionUpdateResponse | some .txPoolAvailable | none => exact .same rfl

theorem onDisconnect_shift (c : Core) (params : List UInt8) :
    c.Shift (if params[3]?.getD 0 = reasonInstantPassed then .restarted else .disconnected)
      (c.onDisconnect params).exchange := by
  simp only [onDisconnect]
  split
  · rw [beginInit_exchange]
    exact .restarted
  · rw [Exchange.eq_of_unqueued (startAdvertising_sequenced _).unqueued]
    exact .disconnected _

theorem onPacket_shift (c : Core) (packet : EventPacket) :
    c.Shift (c.packetEffect packet) (c.onPacket packet).exchange := by
  simp only [onPacket, packetEffect]
  cases packet.kind with
  | commandComplete => exact onCommandComplete_shift c packet
  | commandStatus => exact .same rfl
  | leMeta _ => exact onLeMeta_shift c _
  | hardwareError =>
    dsimp only
    rw [beginInit_exchange]
    exact .restarted
  | asynchronous =>
    dsimp only
    split
    · exact onDisconnect_shift c _
    · split
      · unfold onEncryptionChange
        split
        · exact .encrypted _
        · exact .same rfl
      · split
        · exact onVendor_shift c packet
        · exact .same rfl

/-- Every input does what its effect says. -/
theorem step_shift (c : Core) (input : Input) :
    c.Shift (c.effect input) (c.step input).exchange := by
  cases input with
  | beginInit =>
    simp only [step, beginInit_exchange]
    exact .restarted
  | packet packet => exact onPacket_shift c packet
  | tick => exact .ticked (onTick_ticked c)
  | poll => exact .polled
  | sendMessage data => exact .sent data (sendMessage_sent c data)
  | setDeviceName | setPlaneMode | nextPairingMessage => exact .same rfl
  | nextCommand =>
    simp only [step, nextCommand]
    split
    · exact .same rfl
    · rename_i frame rest queued
      refine .other (rest.filterMap Frame.updated?) ?_
      have shorter : rest <:+ c.outbox := queued ▸ List.suffix_cons frame rest
      exact shorter.filterMap Frame.updated?
  | commandDropped =>
    simp only [step, Core.commandDropped]
    split
    · exact .other [] List.nil_suffix
    · exact .other [] List.nil_suffix
    · exact .same rfl
    · exact .same rfl
    · exact .same rfl
  | respond answer =>
    simp only [step, Core.respond]
    split
    · exact .same (send_exchange _ (by decide) _)
    · exact .same (send_exchange _ (by decide) _)
    · exact .same rfl
  | enableAdvertising on =>
    simp only [step, Core.enableAdvertising]
    split
    · split
      · exact .same rfl
      · exact .same (switchAdvertising_exchange _ on)
    · exact .same rfl
  | resetPairings =>
    simp only [step, Core.resetPairings, effect]
    by_cases ready : c.ready = true
    · by_cases client : c.connection.isConnected = true
      · simp only [ready, client, and_self, if_true]
        rw [beginInit_exchange]
        exact .restarted
      · simp only [ready, client, and_false, Bool.false_eq_true, if_true, if_false]
        exact .same (send_exchange c (by decide) _)
    · simp only [ready, Bool.false_eq_true, false_and, if_false]
      exact .same rfl

theorem startAdvertising_connection {c : Core} (gone : c.connection.handle = noConnection) :
    c.startAdvertising.connection = c.connection := by
  have handle : (c.footing.readvertised c.planeMode).connected = c.connection.handle := by
    rcases c.footing.readvertised_connected c.planeMode with none | same
    · exact none.trans gone.symm
    · exact same
  have moved : c.startAdvertising.connection = { c.connection with
      handle := (c.footing.readvertised c.planeMode).connected } := by
    rw [startAdvertising_eq]
    exact (congrArg connection (dispatch_surroundings (c.placed _) _ _) :)
  rw [moved, handle]

theorem effect_disconnected {c : Core} {input : Input} (effect : c.effect input = .disconnected) :
    ∃ params, params[3]?.getD 0 ≠ reasonInstantPassed ∧ c.step input = c.onDisconnect params := by
  cases input with
  | packet packet =>
    refine ⟨packet.params, ?_⟩
    simp only [Core.effect, packetEffect] at effect
    simp only [step, onPacket]
    grind [completionEffect, leEffect, vendorEffect, modificationEffect, permitEffect]
  | resetPairings =>
    simp only [Core.effect] at effect
    split at effect <;> cases effect
  | _ => cases effect

/-- A lost connection leaves no live link behind. -/
theorem not_live_of_disconnected {c : Core} {input : Input}
    (effect : c.effect input = .disconnected) : ¬(c.step input).Live := by
  obtain ⟨params, reason, reached⟩ := effect_disconnected effect
  rintro ⟨-, client⟩
  rw [reached] at client
  simp only [onDisconnect, reason, if_false] at client
  rw [startAdvertising_connection rfl] at client
  cases client

theorem effect_restarted_iff {c : Core} {input : Input} :
    c.effect input = .restarted ↔ c.Restarts input := by
  cases input with
  | packet packet =>
    simp only [effect, packetEffect, Restarts]
    cases kind : packet.kind with
    | commandComplete =>
      simp only [completionEffect, DropsConnection]
      grind [Command.opcode]
    | commandStatus => simp
    | leMeta =>
      simp only [leEffect, iff_false]
      grind
    | hardwareError => simp
    | asynchronous =>
      have lost : EventCode.disconnectionComplete ≠ EventCode.vendor := by decide
      have encrypted : EventCode.encryptionChange ≠ EventCode.vendor := by decide
      simp only [vendorEffect, modificationEffect, permitEffect, ProcedureTimedOut]
      grind
  | resetPairings =>
    simp only [effect, Restarts]
    split <;> simp_all
  | _ => simp [effect, Restarts]

/-- Whatever starts the initialisation again does so from some state. A link that is not ready keeps
the request to forget the bonds. -/
theorem step_of_restarts {c : Core} {input : Input} (restarts : c.Restarts input) :
    ∃ d : Core, c.step input = d.beginInit ∧
      (c.ready = false → d.clearPairing = c.clearPairing) := by
  cases input with
  | beginInit => exact ⟨c, rfl, fun _ => rfl⟩
  | resetPairings =>
    refine ⟨{ c with clearPairing := true }, ?_, fun unready => ?_⟩
    · simp only [step, resetPairings, restarts.1, restarts.2, if_true]
    · cases unready.symm.trans restarts.1
  | packet packet =>
    simp only [Restarts] at restarts
    simp only [step, onPacket]
    cases kind : packet.kind with
    | hardwareError => exact ⟨c, rfl, fun _ => rfl⟩
    | commandStatus | leMeta =>
      rw [kind] at restarts
      exact restarts.elim
    | commandComplete =>
      rw [kind] at restarts
      obtain ⟨settled, switched, disabling, client⟩ := restarts
      refine ⟨{ c with advRequest := none, pairing := c.pairing.close .failed }, ?_, fun _ => rfl⟩
      have dropped : c.onAdvertisingSwitched =
          { c with advRequest := none, pairing := c.pairing.close .failed }.beginInit := by
        simp only [onAdvertisingSwitched, client, disabling, beq_self_eq_true, if_true]
      rw [← dropped]
      unfold onCommandComplete
      rcases switched with switched | switched <;> rcases settled with settled | settled <;>
        simp only [switched, settled] <;> rfl
    | asynchronous =>
      rw [kind] at restarts
      dsimp only
      rcases restarts with ⟨code, passed⟩ | ⟨code, long, own, timedOut⟩
      · simp only [code, if_true, onDisconnect, passed]
        exact ⟨_, rfl, fun _ => rfl⟩
      · have lost : EventCode.vendor ≠ EventCode.disconnectionComplete := by decide
        have encrypted : EventCode.vendor ≠ EventCode.encryptionChange := by decide
        have taken : ¬(packet.vendorData.length < 2 ∨
            Word.littleAt packet.vendorData 0 ≠ c.connection.handle) :=
          not_or.mpr ⟨Nat.not_lt.mpr long, not_not_intro own⟩
        simp only [code, lost, encrypted, if_false, if_true, onVendor, if_neg taken, timedOut]
        exact ⟨_, rfl, fun _ => rfl⟩
  | _ => exact restarts.elim

end Core

end CardLink.Controller
