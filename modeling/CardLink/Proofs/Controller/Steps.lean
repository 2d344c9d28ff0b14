import CardLink.Proofs.Controller.Moves
import CardLink.Proofs.Controller.Sequences
import CardLink.Proofs.Packet

namespace CardLink.Controller.Core

/-- Once the initialisation is over, a completed switch of advertising answers the request. -/
theorem onAdvertisingSwitched_move {c : Core} {packet : EventPacket}
    (kind : packet.kind = .commandComplete) (connected : ¬(Input.packet packet).Disconnects)
    (settled : c.phase = .idle ∨ c.phase = .ready)
    (switch : packet.opcode = some Command.setNonDiscoverable.opcode ∨
      packet.opcode = some Command.setDiscoverable.opcode) :
    c.Move (.packet packet) c.onAdvertisingSwitched.standing := by
  have restarts : c.Restarts (.packet packet) ↔ c.DropsConnection packet := by
    simp only [Restarts, kind]
  by_cases disabling : c.advRequest = some false
  · by_cases client : c.connection.isConnected = true
    · simp only [onAdvertisingSwitched, client, disabling, beq_self_eq_true, if_true]
      rw [beginInit_standing]
      exact .restarted (restarts.mpr ⟨settled, switch, disabling, client⟩) connected
    · have continues : ¬c.Restarts (.packet packet) :=
        fun restart => client (restarts.mp restart).2.2.2
      simp only [onAdvertisingSwitched, client, disabling, beq_self_eq_true, if_true,
        Bool.false_eq_true, if_false]
      split
      · obtain ⟨phase, up, started⟩ :=
          startAdvertising_standing { c with advRequest := none, advertising := false }
        rw [started]
        exact .renamed continues connected settled disabling up
      · exact .switched continues connected settled
  · have continues : ¬c.Restarts (.packet packet) :=
      fun restart => disabling (restarts.mp restart).2.2.1
    have enabling : (c.advRequest == some false) = false := beq_false_of_ne disabling
    simp only [onAdvertisingSwitched, enabling, Bool.false_eq_true, if_false]
    split <;> exact .switched continues connected settled

theorem onCommandComplete_switched {c : Core} {packet : EventPacket}
    (settled : c.phase = .idle ∨ c.phase = .ready)
    (switch : packet.opcode = some Command.setNonDiscoverable.opcode ∨
      packet.opcode = some Command.setDiscoverable.opcode) :
    c.onCommandComplete packet = c.onAdvertisingSwitched := by
  unfold onCommandComplete
  rcases settled with phase | phase
  all_goals
    simp only [phase]
    rcases switch with answered | answered
    all_goals
      rw [answered]
      rfl

theorem onCommandComplete_move {c : Core} {packet : EventPacket}
    (kind : packet.kind = .commandComplete) (connected : ¬(Input.packet packet).Disconnects) :
    c.Move (.packet packet) (c.onCommandComplete packet).standing := by
  have restarts : c.Restarts (.packet packet) ↔ c.DropsConnection packet := by
    simp only [Restarts, kind]
  match answered : packet.opcode with
  | none =>
    have continues : ¬c.Restarts (.packet packet) := by
      simp [restarts, DropsConnection, answered]
    simp only [onCommandComplete, answered]
    exact .kept continues connected
  | some opcode =>
    cases phase : c.phase with
    | initializing =>
      have continues : ¬c.Restarts (.packet packet) := by
        simp [restarts, DropsConnection, phase]
      simp only [onCommandComplete, answered, phase]
      split
      · rcases stepInit_standing phase packet.returnParams with ⟨step, advanced⟩ | initialized
        · rw [advanced]
          exact .advanced step continues connected phase
        · rw [initialized]
          exact .initialized continues connected phase
      · exact .kept continues connected
    | configuringAdvertising =>
      have continues : ¬c.Restarts (.packet packet) := by
        simp [restarts, DropsConnection, phase]
      simp only [onCommandComplete, answered, phase]
      split
      · rcases stepAdvertising_standing c with kept | ⟨_, ended⟩
        · exact .of_same continues connected kept
        · rw [ended]
          exact .advertised continues connected phase
      · exact .kept continues connected
    | failed =>
      have continues : ¬c.Restarts (.packet packet) := by
        simp [restarts, DropsConnection, phase]
      simp only [onCommandComplete, answered, phase]
      exact .kept continues connected
    | idle | ready =>
      have settled : c.phase = .idle ∨ c.phase = .ready := by simp [phase]
      by_cases switch : opcode = Command.setNonDiscoverable.opcode ∨
          opcode = Command.setDiscoverable.opcode
      · have switch : packet.opcode = some Command.setNonDiscoverable.opcode ∨
            packet.opcode = some Command.setDiscoverable.opcode := by
          rw [answered]
          exact switch.imp (congrArg some) (congrArg some)
        rw [onCommandComplete_switched settled switch]
        exact onAdvertisingSwitched_move kind connected settled switch
      · have continues : ¬c.Restarts (.packet packet) := by
          rw [restarts, DropsConnection, answered, Option.some_inj, Option.some_inj]
          exact fun restart => switch restart.2.1
        refine .of_same continues connected ?_
        simp only [onCommandComplete, answered, phase, switch, if_false]
        split
        · exact onWriteAck_standing c
        · split
          · exact onNotifyComplete_standing c
          · rfl

theorem onDisconnect_move {c : Core} {packet : EventPacket}
    (code : packet.code = EventCode.disconnectionComplete) :
    c.Move (.packet packet) (c.onDisconnect packet.params).standing := by
  have kind := EventPacket.kind_of_disconnection code
  have other : ¬packet.code = EventCode.vendor := by
    rw [code]
    decide
  have restarts : c.Restarts (.packet packet) ↔
      packet.params[3]?.getD 0 = reasonInstantPassed := by
    simp only [Restarts, kind, code, true_and]
    exact or_iff_left fun vendor => other (code.trans vendor.1)
  simp only [onDisconnect]
  split
  · rename_i reason
    rw [beginInit_standing]
    exact .restarted (restarts.mpr reason) fun disconnects => disconnects.2 reason
  · rename_i reason
    obtain ⟨phase, up, started⟩ := startAdvertising_standing { resetTransfer { c with
        connection := {}, advertising := false, notifications := false } with
      pairing := c.pairing.close .failed }
    refine (congrArg (c.Move (.packet packet)) (started.trans ?_)).mpr
      (.disconnected (fun restart => reason (restarts.mp restart)) ⟨code, reason⟩ up)
    rfl

theorem onVendor_move {c : Core} {packet : EventPacket} (code : packet.code = EventCode.vendor) :
    c.Move (.packet packet) (c.onVendor packet).standing := by
  have kind := EventPacket.kind_of_vendor code
  have connected : ¬(Input.packet packet).Disconnects := by
    intro disconnects
    exact absurd (code.symm.trans disconnects.1) (by decide)
  have restarts : c.Restarts (.packet packet) ↔ c.ProcedureTimedOut packet := by
    simp only [Restarts, kind, code, true_and]
    exact or_iff_right fun disconnects => absurd disconnects.1 (by decide)
  simp only [onVendor]
  split
  · rename_i foreign
    refine .kept (fun restart => ?_) connected
    obtain ⟨long, own, -⟩ := restarts.mp restart
    exact foreign.elim (Nat.not_lt.mpr long) fun other => other own
  · rename_i own
    rw [not_or, Nat.not_lt, Decidable.not_not] at own
    match named : packet.vendorCode.bind VendorEvent.ofCode? with
    | some .procedureTimeout =>
      dsimp only
      rw [beginInit_standing]
      exact .restarted (restarts.mpr ⟨own.1, own.2, named⟩) connected
    | some .attributeModified =>
      exact .of_same (by simp [restarts, ProcedureTimedOut, named]) connected
        (onAttributeModified_standing c _)
    | some .writePermitRequest =>
      exact .of_same (by simp [restarts, ProcedureTimedOut, named]) connected
        (onWritePermit_standing c _)
    | some .indication =>
      exact .of_same (by simp [restarts, ProcedureTimedOut, named]) connected
        (send_standing c _ _)
    | some .pairingComplete | some .passKeyRequest | some .numericComparison
    | some .exchangeMtuResponse | some .connectionUpdateResponse | some .txPoolAvailable | none =>
      exact .of_same (by simp [restarts, ProcedureTimedOut, named]) connected rfl

theorem onPacket_move (c : Core) (packet : EventPacket) :
    c.Move (.packet packet) (c.onPacket packet).standing := by
  have connected (other : packet.kind ≠ .asynchronous) : ¬(Input.packet packet).Disconnects :=
    fun disconnects => other (EventPacket.kind_of_disconnection disconnects.1)
  match kind : packet.kind with
  | .commandComplete =>
    simp only [onPacket, kind]
    exact onCommandComplete_move kind (connected (by simp [kind]))
  | .commandStatus =>
    simp only [onPacket, kind]
    exact .kept (by simp [Restarts, kind]) (connected (by simp [kind]))
  | .leMeta subevent =>
    simp only [onPacket, kind]
    exact .of_same (by simp [Restarts, kind]) (connected (by simp [kind]))
      (onLeMeta_standing c _)
  | .hardwareError =>
    simp only [onPacket, kind]
    rw [beginInit_standing]
    exact .restarted (by simp [Restarts, kind]) (connected (by simp [kind]))
  | .asynchronous =>
    simp only [onPacket, kind]
    split
    · rename_i code
      exact onDisconnect_move code
    rename_i still
    have connected : ¬(Input.packet packet).Disconnects := fun disconnects => still disconnects.1
    split
    · rename_i code
      refine .of_same (fun restart => ?_) connected (onEncryptionChange_standing c _)
      simp only [Restarts, kind] at restart
      exact restart.elim (fun disconnects => still disconnects.1)
        fun vendor => absurd (code.symm.trans vendor.1) (by decide)
    split
    · rename_i code
      exact onVendor_move code
    · rename_i other
      refine .kept ?_ connected
      simp [Restarts, kind, still, other]

/-- Every input makes one of the moves. -/
theorem step_move (c : Core) (input : Input) : c.Move input (c.step input).standing := by
  cases input with
  | beginInit =>
    simp only [step, beginInit_standing]
    exact .restarted trivial id
  | packet packet => exact onPacket_move c packet
  | tick => exact .of_same id id (onTick_standing c)
  | nextCommand => exact .of_same id id (nextCommand_standing c)
  | poll | setDeviceName | setPlaneMode | nextPairingMessage => exact .kept id id
  | sendMessage data => exact .of_same id id (sendMessage_standing c data)
  | respond answer => exact .of_same id id (respond_standing c answer)
  | commandDropped =>
    simp only [step, Core.commandDropped]
    split
    · rename_i initializing
      exact .dropped id id (.inl initializing)
    · rename_i configuring
      exact .dropped id id (.inr configuring)
    · exact .kept id id
    · exact .kept id id
    · exact .kept id id
  | enableAdvertising on =>
    simp only [step, Core.enableAdvertising]
    split
    · rename_i ready
      split
      · exact .kept id id
      · rw [switchAdvertising_standing]
        exact .requested on id id ready
    · exact .kept id id
  | resetPairings =>
    simp only [step, Core.resetPairings]
    split
    · rename_i ready
      split
      · rename_i client
        rw [beginInit_standing]
        exact .restarted ⟨ready, client⟩ id
      · rename_i alone
        exact .of_same (fun restart => alone restart.2) id (send_standing c _ _)
    · rename_i unready
      exact .kept (fun restart => unready restart.1) id

end CardLink.Controller.Core
