import CardLink.Proofs.Controller.Failure
import CardLink.Proofs.Controller.Posting

namespace CardLink

/-- The frame tells the controller to forget the bonds. -/
def Frame.clears (frame : List UInt8) : Bool := Frame.opcode frame == Command.clearSecurityDb.opcode

theorem Frame.clears_build {command : Command} {params frame : List UInt8}
    (built : Frame.build command.opcode params = .ok frame) :
    Frame.clears frame = decide (command = .clearSecurityDb) := by
  rw [Frame.clears, Controller.Core.opcode_build built]
  cases command <;> decide

namespace Controller

namespace Core

/-- The frames that an input puts into the outbox. A restart empties it before. -/
def enqueued (c : Core) (input : Input) : List (List UInt8) :=
  (c.step input).outbox.drop (if c.effect input = .restarted then 0 else c.outbox.length)

/-- The request to forget the bonds is as it was, and nothing that has been queued meets it. -/
structure Defers (c after : Core) : Prop where
  ready : after.ready = c.ready
  asked : after.clearPairing = c.clearPairing
  queued : ∃ news, after.outbox <:+ c.outbox ++ news ∧ ∀ frame ∈ news, Frame.clears frame = false

variable {c d after : Core} {input : Input}

theorem Defers.of_same (ready : after.ready = c.ready) (asked : after.clearPairing = c.clearPairing)
    (outbox : after.outbox = c.outbox) : c.Defers after :=
  ⟨ready, asked, [], ⟨[], outbox.trans (List.append_nil _).symm⟩, nofun⟩

theorem Defers.refl (c : Core) : c.Defers c := .of_same rfl rfl rfl

theorem Defers.trans (first : c.Defers d) (second : d.Defers after) : c.Defers after := by
  obtain ⟨news, queued, spare⟩ := first.queued
  obtain ⟨more, later, further⟩ := second.queued
  refine ⟨second.ready.trans first.ready, second.asked.trans first.asked, news ++ more, ?_, ?_⟩
  · rw [← List.append_assoc]
    exact later.trans (List.suffix_append_self_iff.mpr queued)
  · exact List.forall_mem_append.mpr ⟨spare, further⟩

/-- A state may differ in anything else. -/
theorem Defers.from (defers : d.Defers after) (ready : d.ready = c.ready)
    (asked : d.clearPairing = c.clearPairing) (outbox : d.outbox = c.outbox) : c.Defers after :=
  .trans (.of_same ready asked outbox) defers

/-- What does not concern the sequences does not clear the bonds either. -/
theorem Unmoved.defers (unmoved : c.Unmoved after) (asked : after.clearPairing = c.clearPairing) :
    c.Defers after := by
  obtain ⟨news, queued, aside⟩ := unmoved.queued
  refine ⟨congrArg Place.ready unmoved.place, asked, news, queued, fun frame member => ?_⟩
  obtain ⟨command, params, built, other⟩ := aside frame member
  rw [Frame.clears_build built, decide_eq_false_iff_not]
  rintro rfl
  rcases other with other | ⟨other, -⟩
  · exact other List.mem_cons_self
  · cases other

theorem send_defers (c : Core) {command : Command} (other : command ≠ .clearSecurityDb)
    (params : List UInt8) : c.Defers (c.send command params) := by
  unfold send
  split
  · exact .refl c
  · rename_i frame built
    split
    · refine ⟨rfl, rfl, [frame], List.suffix_rfl, fun queued member => ?_⟩
      rw [List.mem_singleton.mp member, Frame.clears_build built]
      exact decide_eq_false other
    · exact .refl c

/-- A sequence that does not clear the bonds leaves the request to do so alone. -/
theorem placed_defers {f : Footing} (ready : f.ready = c.ready)
    (asked : f.clearPairing = c.clearPairing) {command? : Option Command}
    (other : ∀ command ∈ command?, command ≠ .clearSecurityDb) (params : List UInt8) :
    c.Defers ((c.placed f).dispatch command? params) := by
  cases command? with
  | none => exact .of_same ready asked rfl
  | some command => exact .from (send_defers _ (other command rfl) params) ready asked rfl

theorem advCommand?_spares (step : AdvStep) :
    ∀ command ∈ step.command?, command ≠ .clearSecurityDb := by
  cases step <;> rintro command ⟨⟩ <;> decide

theorem initCommand?_spares (step : InitStep) :
    ∀ command ∈ step.command?, command ≠ .clearSecurityDb := by
  cases step <;> rintro command ⟨⟩ <;> decide

theorem stepAdvertising_defers (c : Core) : c.Defers c.stepAdvertising := by
  obtain ⟨connected, on, advanced⟩ := c.footing.advanced_eq
  rw [stepAdvertising_eq, advanced]
  exact placed_defers rfl rfl (advCommand?_spares _) _

theorem startAdvertising_defers (c : Core) : c.Defers c.startAdvertising :=
  .from (stepAdvertising_defers _) rfl rfl rfl

/-- The last step of the initialisation is entered, with the outbox and the request as they were. -/
def Finishes (c after : Core) : Prop :=
  ∃ d : Core, d.outbox = c.outbox ∧ d.clearPairing = c.clearPairing ∧ after = d.finishInit

theorem enterInitStep_defers (c : Core) :
    c.Defers c.enterInitStep ∨ c.Finishes c.enterInitStep := by
  rcases c.enterInitStep_cases with ⟨-, advertised⟩ | ⟨-, finished⟩ | ⟨-, -, sent⟩
  · rw [advertised]
    exact .inl (.from (stepAdvertising_defers _) rfl rfl rfl)
  · exact .inr ⟨c, rfl, rfl, finished⟩
  · rw [sent]
    exact .inl (placed_defers rfl rfl (initCommand?_spares _) _)

/-- The last step of advertising sends nothing, so the outbox is still the same at the end. -/
theorem stepInit_defers (c : Core) (reply : List UInt8) :
    c.Defers (c.stepInit reply) ∨ c.Finishes (c.stepInit reply) := by
  rcases c.stepInit_cases reply with
    ⟨-, handles, -, entered⟩ | ⟨-, -, advertised⟩ | ⟨-, -, finished⟩
  · rw [entered]
    rcases enterInitStep_defers { c with handles := handles, initStep := c.initStep.next }
      with defers | ⟨last, same, asked, finished⟩
    · exact .inl (.from defers rfl rfl rfl)
    · exact .inr ⟨last, same, asked, finished⟩
  · rw [advertised]
    exact .inl (.from (stepAdvertising_defers _) rfl rfl rfl)
  · obtain ⟨connected, on, advanced⟩ :=
      Footing.advanced_eq { c.footing with advWanted := !c.planeMode }
    rw [finished, advanced]
    exact .inr ⟨c.placed _, rfl, rfl, rfl⟩

/-- The outbox is emptied first. -/
theorem beginInit_defers (c : Core) :
    Defers { c with outbox := [], ready := false } c.beginInit := by
  rw [beginInit_eq]
  exact .from (send_defers _ (by decide) _) rfl rfl rfl

/-- Whatever starts the initialisation again keeps the request. -/
theorem step_restarted (unready : c.ready = false) (restarts : c.Restarts input) :
    Defers { c with outbox := [] } (c.step input) := by
  obtain ⟨d, begun, asked⟩ := step_of_restarts restarts
  rw [begun]
  exact .from d.beginInit_defers unready.symm (asked unready) rfl

theorem clearPairing_congr (same : after.surroundings = c.surroundings) :
    after.clearPairing = c.clearPairing :=
  (congrArg clearPairing same :)

theorem onLeMeta_clearPairing (c : Core) (params : List UInt8) :
    (c.onLeMeta params).clearPairing = c.clearPairing := by
  rcases c.onLeMeta_cases params with ⟨connection, same⟩ | ⟨position, same⟩
  · rw [same]
  · rw [same]
    rfl

theorem onVendor_clearPairing {packet : EventPacket} (timely : ¬c.ProcedureTimedOut packet) :
    (c.onVendor packet).clearPairing = c.clearPairing := by
  simp only [onVendor]
  split
  · rfl
  · rename_i own
    rw [not_or, Nat.not_lt, Decidable.not_not] at own
    split
    · rfl
    · rfl
    · rfl
    · exact clearPairing_congr (c.onAttributeModified_surroundings _)
    · rfl
    · exact clearPairing_congr (c.onWritePermit_surroundings _)
    · exact clearPairing_congr (c.send_surroundings _ _)
    · rename_i event
      exact absurd ⟨own.1, own.2, event⟩ timely
    all_goals rfl

theorem onCommandComplete_defers (running : ¬(c.phase = .idle ∨ c.phase = .ready))
    (packet : EventPacket) :
    c.Defers (c.onCommandComplete packet) ∨ c.Finishes (c.onCommandComplete packet) := by
  unfold onCommandComplete
  split
  · exact .inl (.refl c)
  cases phase : c.phase with
  | initializing =>
    dsimp only
    split
    · exact c.stepInit_defers _
    · exact .inl (.refl c)
  | configuringAdvertising =>
    dsimp only
    split
    · exact .inl c.stepAdvertising_defers
    · exact .inl (.refl c)
  | failed => exact .inl (.refl c)
  | idle | ready => simp [phase] at running

theorem onPacket_defers (running : ¬(c.phase = .idle ∨ c.phase = .ready)) {packet : EventPacket}
    (continues : ¬c.Restarts (.packet packet)) :
    c.Defers (c.onPacket packet) ∨ c.Finishes (c.onPacket packet) := by
  simp only [Restarts] at continues
  simp only [onPacket]
  cases kind : packet.kind with
  | commandComplete => exact onCommandComplete_defers running packet
  | commandStatus => exact .inl (.refl c)
  | leMeta => exact .inl ((c.onLeMeta_unmoved _).defers (c.onLeMeta_clearPairing _))
  | hardwareError =>
    rw [kind] at continues
    exact absurd trivial continues
  | asynchronous =>
    rw [kind, not_or] at continues
    refine .inl ?_
    dsimp only
    split
    · rename_i code
      have reason : packet.params[3]?.getD 0 ≠ reasonInstantPassed :=
        fun passed => continues.1 ⟨code, passed⟩
      simp only [onDisconnect, if_neg reason]
      exact .from (startAdvertising_defers _) rfl rfl rfl
    · split
      · unfold onEncryptionChange
        split <;> exact .of_same rfl rfl rfl
      · split
        · rename_i code
          have timely : ¬c.ProcedureTimedOut packet := fun late => continues.2 ⟨code, late⟩
          exact (c.onVendor_unmoved timely).defers (onVendor_clearPairing timely)
        · exact .refl c

/-- Whatever else happens keeps the request too, but the end of the initialisation. -/
theorem step_continues (running : ¬(c.phase = .idle ∨ c.phase = .ready)) (unready : c.ready = false)
    (continues : ¬c.Restarts input) : c.Defers (c.step input) ∨ c.Finishes (c.step input) := by
  cases input with
  | packet packet => exact onPacket_defers running continues
  | beginInit => exact absurd trivial continues
  | tick =>
    refine .inl ?_
    simp only [step, onTick]
    split <;> exact .of_same rfl rfl rfl
  | nextCommand =>
    refine .inl ?_
    simp only [step, nextCommand]
    split
    · exact .refl c
    · rename_i frame rest queued
      refine ⟨rfl, rfl, [], ?_, List.forall_mem_nil _⟩
      rw [queued, List.append_nil]
      exact List.suffix_cons frame rest
  | commandDropped =>
    refine .inl ?_
    simp only [step, commandDropped]
    split
    · exact ⟨unready.symm, rfl, [], List.nil_suffix, List.forall_mem_nil _⟩
    · exact ⟨unready.symm, rfl, [], List.nil_suffix, List.forall_mem_nil _⟩
    all_goals exact .refl c
  | poll | setDeviceName | setPlaneMode | nextPairingMessage => exact .inl (.of_same rfl rfl rfl)
  | sendMessage data =>
    exact .inl ((c.sendMessage_unmoved data).defers
      (clearPairing_congr (c.sendMessage_surroundings data)))
  | enableAdvertising on =>
    simp only [step, enableAdvertising, unready]
    exact .inl (.refl c)
  | resetPairings =>
    simp only [step, resetPairings, unready]
    exact .inl (.refl c)
  | respond answer =>
    refine .inl ?_
    simp only [step, respond]
    split
    · exact .from (send_defers { c with pairing := (c.pairing.respond answer).2 }
        (by decide) _) rfl rfl rfl
    · exact .from (send_defers { c with pairing := (c.pairing.respond answer).2 }
        (by decide) _) rfl rfl rfl
    · exact .of_same rfl rfl rfl

/-- The bonds are to be forgotten at the end of an initialisation that has begun. -/
structure Waits (c : Core) : Prop where
  unready : c.ready = false
  asked : c.clearPairing = true
  begun : c.phase ≠ .idle

theorem Defers.countP_drop (defers : c.Defers after) :
    (after.outbox.drop c.outbox.length).countP Frame.clears = 0 := by
  obtain ⟨news, ⟨taken, split⟩, spare⟩ := defers.queued
  rw [List.countP_eq_zero]
  intro frame member
  have added : (taken ++ after.outbox).drop (taken.length + c.outbox.length) =
      (c.outbox ++ news).drop (c.outbox.length + taken.length) := by
    rw [split, Nat.add_comm]
  rw [List.drop_length_add_append, List.drop_length_add_append] at added
  rw [added] at member
  rw [spare frame (List.mem_of_mem_drop member)]
  decide

theorem clearingPost_fits : (Post.mk .clearSecurityDb [] []).Fits :=
  ⟨by decide, by decide, List.forall_mem_nil _⟩

/-- The bonds are forgotten if the outbox has room to say so. -/
theorem finishInit_clears (asked : c.clearPairing = true) :
    c.finishInit.clearPairing = false ∧
      (c.finishInit.outbox.drop c.outbox.length).countP Frame.clears =
        if c.outbox.length < outboxCapacity then 1 else 0 := by
  have sent := send_fitting (c := { c with clearPairing := false }) clearingPost_fits
  simp only [finishInit, asked, if_true, sent]
  split
  · exact ⟨rfl, by rw [List.drop_left]; rfl⟩
  · exact ⟨rfl, by rw [List.drop_length]; rfl⟩

theorem Move.begun {standing : Standing} (move : c.Move input standing) (begun : c.phase ≠ .idle) :
    standing.phase ≠ .idle := by
  cases move with
  | restarted | dropped | initialized | advertised => exact nofun
  | disconnected _ _ up | renamed _ _ _ _ up =>
    intro idle
    rcases up with rfl | rfl <;> cases idle
  | kept | requested | switched | advanced => exact begun

/-- The request waits on, or it is met at the end of the initialisation. -/
theorem step_waits (waits : c.Waits) (busy : c.phase ≠ .ready) (input : Input) :
    (c.step input).Waits ∧ (c.enqueued input).countP Frame.clears = 0 ∨
      (c.step input).phase = .ready ∧ (c.step input).clearPairing = false ∧
        (c.enqueued input).countP Frame.clears =
          if c.outbox.length < outboxCapacity then 1 else 0 := by
  have running : ¬(c.phase = .idle ∨ c.phase = .ready) := not_or.mpr ⟨waits.begun, busy⟩
  have begun : (c.step input).phase ≠ .idle := (c.step_move input).begun waits.begun
  have waiting (ready : (c.step input).ready = c.ready)
      (asked : (c.step input).clearPairing = c.clearPairing) : (c.step input).Waits :=
    ⟨ready.trans waits.unready, asked.trans waits.asked, begun⟩
  by_cases restarts : c.Restarts input
  · have defers := step_restarted waits.unready restarts
    rw [enqueued, if_pos (effect_restarted_iff.mpr restarts)]
    exact .inl ⟨waiting defers.ready defers.asked, defers.countP_drop⟩
  · rw [enqueued, if_neg fun restarted => restarts (effect_restarted_iff.mp restarted)]
    rcases step_continues running waits.unready restarts with defers | ⟨last, whole, asked, ends⟩
    · exact .inl ⟨waiting defers.ready defers.asked, defers.countP_drop⟩
    · obtain ⟨met, cleared⟩ := finishInit_clears (asked.trans waits.asked)
      rw [ends, ← whole]
      exact .inr ⟨rfl, met, cleared⟩

end Core

/-- How often the bonds have been said to be forgotten. -/
def clearings (past : List (Core × Input)) : Nat :=
  (past.flatMap fun e => e.1.enqueued e.2).countP Frame.clears

theorem clearings_append (past later : List (Core × Input)) :
    clearings (past ++ later) = clearings past + clearings later := by
  simp only [clearings, List.flatMap_append, List.countP_append]

theorem clearings_singleton (c : Core) (input : Input) :
    clearings [(c, input)] = (c.enqueued input).countP Frame.clears := by
  rw [clearings, List.flatMap_singleton]

variable {c after : Core} {later : List (Core × Input)}

/-- Until the phase of readiness the request waits; there it has been met, unless the phase was
reached before the initialisation had come to its end. -/
theorem Run.waits {initial : Core} (run : Run initial later after) (waits : initial.Waits)
    (busy : ∀ e ∈ later, e.1.phase ≠ .ready) :
    after.Waits ∧ clearings later = 0 ∨
      after.phase = .ready ∧ after.clearPairing = false ∧
        ∃ earlier d input, later = earlier ++ [(d, input)] ∧
          clearings later = if d.outbox.length < outboxCapacity then 1 else 0 := by
  induction run with
  | start => exact .inl ⟨waits, rfl⟩
  | @next past d run input ih =>
    rw [List.forall_mem_append, List.forall_mem_singleton] at busy
    rcases ih busy.1 with ⟨waiting, none⟩ | ⟨ready, -⟩
    · rw [clearings_append, none, Nat.zero_add, clearings_singleton]
      refine (Core.step_waits waiting busy.2 input).imp_right fun ⟨ready, met, cleared⟩ => ?_
      exact ⟨ready, met, past, d, input, rfl, cleared⟩
    · exact absurd ready busy.2

theorem Core.resetPairings_waits (ready : c.ready = true)
    (client : c.connection.isConnected = true) :
    (c.step .resetPairings).Waits ∧ clearings [(c, .resetPairings)] = 0 ∧
      (c.step .resetPairings).standing.Sound (CutShort []) := by
  have begun : c.step .resetPairings = { c with clearPairing := true }.beginInit := by
    simp only [step, resetPairings, ready, client, if_true]
  have defers := beginInit_defers { c with clearPairing := true }
  have standing := beginInit_standing { c with clearPairing := true }
  have effect : c.effect .resetPairings = .restarted := if_pos ⟨ready, client⟩
  have none := defers.countP_drop
  have phase : (c.step .resetPairings).phase = .initializing := by
    rw [begun]
    exact congrArg Standing.phase standing
  rw [clearings_singleton, enqueued, if_pos effect, begun, standing]
  rw [begun] at phase
  exact ⟨⟨defers.ready, defers.asked, by rw [phase]; decide⟩, none, sound_begun⟩

/-- Bonds that are to be forgotten while a client is connected are forgotten at the end of an
initialisation, once. The request waits for it, however often the initialisation fails or is started
again, and is met when the phase of readiness is reached, unless a disconnection has cut the
initialisation short; a full outbox loses it. -/
theorem Run.clears_bonds (run : Run (c.step .resetPairings) later after) (ready : c.ready = true)
    (client : c.connection.isConnected = true) (busy : ∀ e ∈ later, e.1.phase ≠ .ready) :
    (after.phase ≠ .ready →
      after.clearPairing = true ∧ clearings ((c, .resetPairings) :: later) = 0) ∧
    (after.phase = .ready → ¬CutShort later → after.clearPairing = false ∧
      ∃ earlier d input, later = earlier ++ [(d, input)] ∧
        clearings ((c, .resetPairings) :: later) =
          if d.outbox.length < outboxCapacity then 1 else 0) := by
  obtain ⟨waits, none, sound⟩ := Core.resetPairings_waits ready client
  have all : clearings ((c, .resetPairings) :: later) = clearings later := by
    rw [← List.singleton_append, clearings_append, none, Nat.zero_add]
  rw [all]
  rcases run.waits waits busy with ⟨waiting, still⟩ | ⟨up, met⟩
  · refine ⟨fun _ => ⟨waiting.asked, still⟩, fun up uncut => ?_⟩
    have settled := ((run.sound_of sound).settled (.inr up)).mpr uncut
    exact absurd (waiting.unready.symm.trans settled) (by decide)
  · exact ⟨fun other => absurd up other, fun _ _ => met⟩

/-- The initialisation is started again on its second command, and then runs to its end. -/
theorem Run.clears_bonds_restarted :
    let initial := Core.create .standard (.stepping 0 1) "card" [1, 2, 3, 4, 5, 6] true
    let c := Input.session.foldl Core.step initial
    let inputs := [.nextCommand, .completed .reset, .nextCommand] ++ Input.session.take 29
    let later := (c.step .resetPairings).history inputs
    let after := inputs.foldl Core.step (c.step .resetPairings)
    (Run (c.step .resetPairings) later after ∧ c.ready = true ∧ c.connection.isConnected = true ∧
      ∀ e ∈ later, e.1.phase ≠ .ready) ∧
    after.phase = .ready ∧ clearings ((c, .resetPairings) :: later) = 1 ∧
    (after.phase ≠ .ready →
      after.clearPairing = true ∧ clearings ((c, .resetPairings) :: later) = 0) ∧
    (after.phase = .ready → ¬CutShort later → after.clearPairing = false ∧
      ∃ earlier d input, later = earlier ++ [(d, input)] ∧
        clearings ((c, .resetPairings) :: later) =
          if d.outbox.length < outboxCapacity then 1 else 0) := by
  intro initial c inputs later after
  have run : Run (c.step .resetPairings) later after := Run.start.history inputs
  have ready : c.ready = true := by decide +kernel
  have client : c.connection.isConnected = true := by decide +kernel
  have busy : ∀ e ∈ later, e.1.phase ≠ .ready := by decide +kernel
  exact ⟨⟨run, ready, client, busy⟩, by decide +kernel, by decide +kernel,
    run.clears_bonds ready client busy⟩

/-- No command is written before the end of the initialisation, and the request is lost; or a client
is lost first, and the phase of readiness comes without the end of the initialisation. -/
theorem ready_without_clearing :
    let initial := Core.create .standard (.stepping 0 1) "card" [1, 2, 3, 4, 5, 6] true
    let c := Input.session.foldl Core.step initial
    let unwritten := [Command.reset, .writeConfig, .gattInit, .gapInit, .setIoCapability,
      .setAuthRequirement, .addService, .addChar, .addChar, .addChar, .setTxPower, .updateAdvData,
      .setScanResponse, .updateCharValue].map Input.completed
    let lost :=
      [Input.event EventCode.disconnectionComplete (0x00 :: Word.little 0x0801 ++ [0x13])]
    (∃ past, Run initial past c) ∧ c.ready = true ∧ c.connection.isConnected = true ∧
      ∀ inputs ∈ [unwritten, lost],
        let later := (c.step .resetPairings).history inputs
        let after := inputs.foldl Core.step (c.step .resetPairings)
        Run (c.step .resetPairings) later after ∧ (∀ e ∈ later, e.1.phase ≠ .ready) ∧
          after.phase = .ready ∧ clearings ((c, .resetPairings) :: later) = 0 := by
  intro initial c unwritten lost
  refine ⟨Run.script initial Input.session, by decide +kernel, by decide +kernel, ?_⟩
  simp only [List.forall_mem_cons]
  exact ⟨⟨Run.start.history unwritten, by decide +kernel, by decide +kernel, by decide +kernel⟩,
    ⟨Run.start.history lost, by decide +kernel, by decide +kernel, by decide +kernel⟩,
    List.forall_mem_nil _⟩

end Controller

end CardLink
