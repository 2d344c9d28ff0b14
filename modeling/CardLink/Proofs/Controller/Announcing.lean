import CardLink.Proofs.Controller.Bonds
import CardLink.Proofs.Controller.Fitting

namespace CardLink.Controller

/-- The steps that a full setup of advertising takes, whether or not advertising is started. -/
def announcement : List AdvStep := [.setAdvData, .setScanResponse, .setDeviceName]

theorem next_of_announcement {sent behind : List AdvStep} {step next : AdvStep}
    (split : sent ++ step :: next :: behind = announcement) (wanted : Bool) :
    step.next wanted = next := by
  rcases sent with _ | ⟨first, _ | ⟨second, sent⟩⟩
  · cases split
    rfl
  · cases split
    rfl
  · have length := congrArg List.length split
    simp [announcement] at length
    omega

theorem last_of_announcement {sent : List AdvStep} {step : AdvStep}
    (split : sent ++ [step] = announcement) : step = .setDeviceName :=
  List.singleton_inj.mp (List.append_inj' (split.trans (rfl : _ = [_, _] ++ [_])) rfl).2

theorem next_sends {step : AdvStep} {wanted : Bool} (unfinished : step.next wanted ≠ .finished) :
    ∃ command, (step.next wanted).command? = some command := by
  cases step <;> cases wanted <;> first | exact ⟨_, rfl⟩ | exact absurd rfl unfinished

namespace Core

/-- The input has advertising set up from its payloads on: the initialisation has come that far, or
a device with a new name has lost its client or been switched off. -/
inductive SetsUp (c : Core) : Input → Prop
  | broughtUp {packet : EventPacket} {opcode : UInt16} (completed : packet.kind = .commandComplete)
      (answered : packet.opcode = some opcode) (initializing : c.phase = .initializing)
      (last : c.initStep = .txPower) (awaited : c.awaits opcode = true) :
      SetsUp c (.packet packet)
  | lost {input : Input} (disconnects : input.Disconnects) (renamed : c.nameChanged = true) :
      SetsUp c input
  | switchedOff {packet : EventPacket} (completed : packet.kind = .commandComplete)
      (settled : c.phase = .idle ∨ c.phase = .ready)
      (switch : packet.opcode = some Command.setNonDiscoverable.opcode ∨
        packet.opcode = some Command.setDiscoverable.opcode)
      (disabling : c.advRequest = some false) (alone : c.connection.isConnected = false)
      (renamed : c.nameChanged = true) : SetsUp c (.packet packet)

/-- What a full setup posts. -/
def setupPosts (c : Core) (wanted : Bool) : List Post :=
  [c.advDataPost, c.scanResponsePost, c.namePost] ++ if wanted then [c.discoverablePost] else []

/-- Advertising is being set up, and the command of this step is to be completed. -/
structure SettingUp (c : Core) (step : AdvStep) : Prop where
  running : c.phase = .initializing ∧ c.initStep = .configureAdvertising ∨
    c.phase = .configuringAdvertising
  here : c.advStep = step
  awaited : c.awaited = step.command?

/-- Advertising is to be started at the end of the setup. -/
def wants (c : Core) : Bool := if c.phase = .initializing then !c.planeMode else c.advWanted

/-- What the payloads are made of is the same. -/
structure Alike (c d : Core) : Prop where
  name : d.name = c.name
  settings : d.settings = c.settings
  handles : d.handles = c.handles

variable {c d : Core} {input : Input} {step : AdvStep} {command : Command}

theorem Alike.advPost? (alike : c.Alike d) (step : AdvStep) :
    d.advPost? step = c.advPost? step := by
  cases step <;> simp only [Core.advPost?, advDataPost, scanResponsePost, scanResponseParams,
    namePost, discoverablePost, alike.name, alike.settings, alike.handles]

theorem Alike.trans {after : Core} (first : c.Alike d) (second : d.Alike after) :
    c.Alike after :=
  ⟨second.name.trans first.name, second.settings.trans first.settings,
    second.handles.trans first.handles⟩

theorem stepAdvertising_alike (c : Core) : c.Alike c.stepAdvertising := by
  obtain ⟨connected, on, advanced⟩ := c.footing.advanced_eq
  refine ⟨congrArg Profile.name c.stepAdvertising_profile, ?_, ?_⟩
  · exact congrArg Exchange.settings
      (Exchange.eq_of_unqueued c.stepAdvertising_sequenced.unqueued)
  · exact congrArg Footing.handles (c.stepAdvertising_footing.trans advanced)

/-- A step of the setup is over, and the next one has been entered for the same device. -/
structure GoesOn (c : Core) (next : AdvStep) (after : Core) : Prop extends
    after.SettingUp next, c.Alike after where
  planeMode : after.planeMode = c.planeMode
  wants : after.wants = c.wants
  queued : after.outbox = c.outbox ++ ((c.advPost? next).map Post.frame).toList

theorem SettingUp.goesOn (setting : c.SettingUp step) (wanted : c.advWanted = c.wants)
    (unfinished : step.next c.wants ≠ .finished)
    (sized : c.name.length ≤ Advertising.nameCapacity) (room : c.outbox.length < outboxCapacity) :
    c.GoesOn (step.next c.wants) c.stepAdvertising := by
  obtain ⟨connected, on, advanced⟩ := c.footing.advanced_eq
  have footing := c.stepAdvertising_footing.trans advanced
  have here : c.footing.advStep = step := setting.here
  have same : c.footing.advWanted = c.wants := wanted
  obtain ⟨command, sends⟩ := next_sends unfinished
  rw [here, same, if_neg fun last => unfinished last.1] at footing
  have phase : c.stepAdvertising.phase = c.phase := congrArg Footing.phase footing
  have initStep : c.stepAdvertising.initStep = c.initStep := congrArg Footing.initStep footing
  have advWanted : c.stepAdvertising.advWanted = c.advWanted :=
    (congrArg Footing.advWanted footing).trans wanted.symm
  have awaited := congrArg Footing.awaited footing
  rw [sends] at awaited
  have planeMode := congrArg Profile.planeMode c.stepAdvertising_profile
  have queued := stepAdvertising_room room (advPost?_fit sized _)
  rw [setting.here, wanted] at queued
  refine ⟨⟨?_, congrArg Footing.advStep footing, awaited.trans sends.symm⟩,
    c.stepAdvertising_alike, planeMode, ?_, queued⟩
  · rw [phase, initStep]
    exact setting.running
  · have planeMode : c.stepAdvertising.planeMode = c.planeMode := planeMode
    rw [Core.wants, Core.wants, phase, advWanted, planeMode]

/-- Where the initialisation sets advertising up, what is wanted is looked up at every step. -/
theorem SettingUp.step_eq (setting : c.SettingUp step) (sends : step.command? = some command)
    (completes : input.completes? = some command.opcode)
    (unfinished : step.next c.wants ≠ .finished) :
    c.step input = stepAdvertising { c with advWanted := c.wants } := by
  obtain ⟨packet, rfl, kind, answered⟩ := Input.of_completes completes
  have awaits := awaits_awaited (setting.awaited.trans sends)
  have reached : c.step (.packet packet) = c.onCommandComplete packet := by
    simp only [Core.step, onPacket, kind]
  rw [reached]
  rcases setting.running with ⟨initializing, advertising⟩ | configuring
  · have wants : c.wants = !c.planeMode := if_pos initializing
    rw [← setting.here, wants] at unfinished
    have stepped : c.onCommandComplete packet = c.stepInit packet.returnParams := by
      simp only [onCommandComplete, answered, initializing, awaits, if_true]
    rw [stepped, wants]
    rcases c.stepInit_cases packet.returnParams with
      ⟨other, -⟩ | ⟨-, -, advertised⟩ | ⟨-, last, -⟩
    · exact absurd advertising other
    · exact advertised
    · exact absurd last unfinished
  · have wants : c.wants = c.advWanted := if_neg (by rw [configuring]; decide)
    have stepped : c.onCommandComplete packet = c.stepAdvertising := by
      simp only [onCommandComplete, answered, configuring, awaits, if_true]
    rw [wants]
    exact stepped

theorem SettingUp.step_completed (setting : c.SettingUp step) (sends : step.command? = some command)
    (completes : input.completes? = some command.opcode)
    (unfinished : step.next c.wants ≠ .finished)
    (sized : c.name.length ≤ Advertising.nameCapacity) (room : c.outbox.length < outboxCapacity) :
    c.GoesOn (step.next c.wants) (c.step input) := by
  let d : Core := { c with advWanted := c.wants }
  have wants : d.wants = c.wants := by
    change (if c.phase = .initializing then !c.planeMode else c.wants) = c.wants
    rw [Core.wants]
    split <;> rfl
  have setting' : d.SettingUp step := ⟨setting.running, setting.here, setting.awaited⟩
  have next : d.GoesOn (step.next c.wants) d.stepAdvertising :=
    wants ▸ setting'.goesOn wants.symm (wants ▸ unfinished) sized room
  rw [setting.step_eq sends completes unfinished]
  exact ⟨next.toSettingUp, ⟨next.name, next.settings, next.handles⟩, next.planeMode,
    next.wants.trans wants, next.queued⟩

theorem place_congr {after : Core} (same : after.surroundings = c.surroundings) :
    after.place = c.place :=
  (congrArg place same :)

/-- Nothing but a completion that it waits for moves a running sequence, unless it starts over. -/
theorem step_place
    (passed : ∀ packet, input = .packet packet → packet.kind = .commandComplete →
      c.onCommandComplete packet = c)
    (continues : ¬c.Restarts input) (connected : ¬input.Disconnects)
    (written : input ≠ .commandDropped) : (c.step input).place = c.place := by
  cases input with
  | beginInit => exact absurd trivial continues
  | packet packet => exact (onPacket_unmoved (passed packet rfl) continues connected).place
  | tick =>
    simp only [Core.step, onTick]
    split <;> rfl
  | nextCommand =>
    simp only [Core.step, nextCommand]
    split <;> rfl
  | commandDropped => exact absurd rfl written
  | poll | setDeviceName | setPlaneMode | nextPairingMessage => rfl
  | sendMessage data => exact (sendMessage_unmoved c data).place
  | respond answer => exact (respond_unmoved c answer).place
  | enableAdvertising on =>
    simp only [Core.step, enableAdvertising]
    split
    · split
      · rfl
      · exact (place_congr (switchAdvertising_surroundings _ on)).trans rfl
    · rfl
  | resetPairings =>
    simp only [Core.step, resetPairings]
    split
    · rename_i ready
      split
      · rename_i client
        exact absurd ⟨ready, client⟩ continues
      · exact place_congr (send_surroundings _ _ _)
    · rfl

theorem SettingUp.step_other (setting : c.SettingUp step) (sends : step.command? = some command)
    (other : input.completes? ≠ some command.opcode) (continues : ¬c.Restarts input)
    (connected : ¬input.Disconnects) (written : input ≠ .commandDropped) :
    (c.step input).place = c.place := by
  refine step_place (fun packet same kind => ?_) continues connected written
  subst same
  have completes : (Input.packet packet).completes? = packet.opcode := if_pos kind
  exact onCommandComplete_other (setting.running.imp_left And.left)
    (setting.awaited.trans sends) (completes ▸ other)

theorem enqueued_append {news : List (List UInt8)} (continues : ¬c.Restarts input)
    (queued : (c.step input).outbox = c.outbox ++ news) : c.enqueued input = news := by
  have going : c.effect input ≠ .restarted := mt effect_restarted_iff.mp continues
  rw [enqueued, if_neg going, queued, List.drop_left]

theorem stepInit_configures (last : c.initStep = .txPower) (reply : List UInt8) :
    c.stepInit reply = stepAdvertising { c with
      initStep := .configureAdvertising
      awaited := none
      advStep := .idle
      advWanted := !c.planeMode } := by
  have learned : c.learnHandles reply = c := by
    unfold learnHandles
    split <;> simp_all
  have other : c.initStep ≠ .configureAdvertising := by
    rw [last]
    decide
  rw [stepInit, if_neg other, learned]
  simp only [nextInitStep, last, InitStep.next, enterInitStep]

theorem startAdvertising_renamed (renamed : c.nameChanged = true) :
    c.startAdvertising = stepAdvertising { c with
      phase := .configuringAdvertising
      advStep := .idle
      nameChanged := false
      awaited := none
      advWanted := !c.planeMode } := by
  simp only [startAdvertising, renamed, if_true]

/-- A setup begins with the first step of advertising. -/
theorem SetsUp.begins (sets : c.SetsUp input) : ∃ d, c.step input = d.stepAdvertising ∧
    d.SettingUp .idle ∧ c.Alike d ∧ d.outbox = c.outbox ∧ d.planeMode = c.planeMode ∧
      d.advWanted = !c.planeMode := by
  cases sets with
  | @broughtUp packet opcode completed answered initializing last awaited =>
    have reached : c.step (.packet packet) = c.stepInit packet.returnParams := by
      simp only [Core.step, onPacket, completed, onCommandComplete, answered, initializing, awaited,
        if_true]
    exact ⟨_, reached.trans (stepInit_configures last _), ⟨.inl ⟨initializing, rfl⟩, rfl, rfl⟩,
      ⟨rfl, rfl, rfl⟩, rfl, rfl, rfl⟩
  | lost disconnects renamed =>
    cases input with
    | packet packet =>
      obtain ⟨code, reason⟩ := disconnects
      have kind := EventPacket.kind_of_disconnection code
      have reached : c.step (.packet packet) = startAdvertising { resetTransfer { c with
          connection := {}, advertising := false, notifications := false } with
          pairing := c.pairing.close .failed } := by
        simp only [Core.step, onPacket, kind, code, if_true, onDisconnect, if_neg reason]
        rfl
      exact ⟨_, reached.trans (startAdvertising_renamed renamed), ⟨.inr rfl, rfl, rfl⟩,
        ⟨rfl, rfl, rfl⟩, rfl, rfl, rfl⟩
    | _ => exact disconnects.elim
  | @switchedOff packet completed settled switch disabling alone renamed =>
    have reached : c.step (.packet packet) =
        startAdvertising { c with advRequest := none, advertising := false } := by
      simp only [Core.step, onPacket, completed, onCommandComplete_switched settled switch,
        onAdvertisingSwitched, disabling, beq_self_eq_true, alone, renamed, Bool.false_eq_true,
        if_true, if_false]
    exact ⟨_, reached.trans (startAdvertising_renamed renamed), ⟨.inr rfl, rfl, rfl⟩,
      ⟨rfl, rfl, rfl⟩, rfl, rfl, rfl⟩

theorem SetsUp.continues (sets : c.SetsUp input) : ¬c.Restarts input := by
  cases sets with
  | broughtUp completed _ initializing =>
    simp only [Restarts, completed]
    intro drops
    rcases drops.1 with phase | phase <;> exact absurd (initializing.symm.trans phase) (by decide)
  | lost disconnects =>
    have move := c.step_move input
    generalize (c.step input).standing = standing at move
    cases move with
    | restarted _ connected => exact absurd disconnects connected
    | _ => assumption
  | switchedOff completed _ _ _ alone =>
    simp only [Restarts, completed]
    intro drops
    exact absurd (alone.symm.trans drops.2.2.2) (by decide)

theorem SetsUp.unnamed (sets : c.SetsUp input) (name : String) : input ≠ .setDeviceName name := by
  cases sets with
  | broughtUp | switchedOff => nofun
  | lost disconnects =>
    rintro rfl
    exact disconnects

theorem step_planeMode (kept : ∀ on, input ≠ .setPlaneMode on) :
    (c.step input).planeMode = c.planeMode := by
  have planeMode : (c.step input).planeMode = c.planeModeAfter input :=
    congrArg Profile.planeMode (c.step_profile input)
  cases input with
  | setPlaneMode on => exact absurd rfl (kept on)
  | _ => exact planeMode

theorem step_alike (kept : ∀ name, input ≠ .setDeviceName name)
    (place : (c.step input).place = c.place) : c.Alike (c.step input) := by
  refine ⟨?_, (step_shift c input).settings, congrArg Place.handles place⟩
  have name : (c.step input).name = c.nameAfter input :=
    congrArg Profile.name (c.step_profile input)
  cases input with
  | setDeviceName given => exact absurd rfl (kept given)
  | _ => exact name

theorem wants_congr (place : d.place = c.place) (planeMode : d.planeMode = c.planeMode) :
    d.wants = c.wants := by
  have phase : d.phase = c.phase := congrArg Place.phase place
  have advWanted : d.advWanted = c.advWanted := congrArg Place.advWanted place
  rw [wants, wants, phase, advWanted, planeMode]

end Core

variable {c d after : Core} {begun : Input} {later : List (Core × Input)} {left : List Command}

/-- Nothing keeps a setup from going on: it is not started over, and none of its commands is given
up or has no room. -/
structure Undisturbed (e : Core × Input) : Prop where
  continues : ¬e.1.Restarts e.2
  connected : ¬e.2.Disconnects
  written : e.2 ≠ .commandDropped
  unnamed : ∀ name, e.2 ≠ .setDeviceName name
  room : e.1.outbox.length < outboxCapacity

/-- A command that is completed while the sequence runs does not keep a setup from going on. -/
theorem Undisturbed.completed {command : Command}
    (running : ¬(c.phase = .idle ∨ c.phase = .ready)) (room : c.outbox.length < outboxCapacity) :
    Undisturbed (c, Input.completed command) := by
  have kind : EventPacket.kind ⟨Platform.completion command.opcode []⟩ = .commandComplete := rfl
  have code : EventPacket.code ⟨Platform.completion command.opcode []⟩ =
    EventCode.commandComplete := rfl
  refine ⟨fun drops => ?_, fun gone => ?_, nofun, nofun, room⟩
  · simp only [Core.Restarts, Input.completed, kind] at drops
    exact running drops.1
  · exact absurd (code.symm.trans gone.1) (by decide)

/-- Plane mode is left as it is. -/
def Unswitched (later : List (Core × Input)) : Prop := ∀ e ∈ later, ∀ on, e.2 ≠ .setPlaneMode on

/-- What has been queued since a setup began. -/
def announced (c : Core) (begun : Input) (later : List (Core × Input)) : List (List UInt8) :=
  c.enqueued begun ++ later.flatMap fun e => e.1.enqueued e.2

/-- How far a full setup has come, by what of it is still to be completed. -/
inductive Setup (c : Core) (begun : Input) (later : List (Core × Input)) :
    List Command → Core → Prop
  | running {sent behind : List AdvStep} {step : AdvStep} {command : Command} {d : Core}
      (split : sent ++ step :: behind = announcement) (setting : d.SettingUp step)
      (sends : step.command? = some command) (alike : c.Alike d)
      (wants : Unswitched later → d.wants = !c.planeMode ∧ d.planeMode = c.planeMode)
      (queued : (((sent ++ [step]).filterMap c.advPost?).map Post.frame).Sublist
        (announced c begun later)) :
      Setup c begun later (command :: behind.filterMap AdvStep.command?) d
  | done (wanted : Bool) {d : Core} (wants : Unswitched later → wanted = !c.planeMode)
      (queued : ((c.setupPosts wanted).map Post.frame).Sublist (announced c begun later)) :
      Setup c begun later [] d

theorem announced_append (c : Core) (begun : Input) (later : List (Core × Input))
    (e : Core × Input) :
    announced c begun (later ++ [e]) = announced c begun later ++ e.1.enqueued e.2 := by
  simp only [announced, List.flatMap_append, List.flatMap_singleton, List.append_assoc]

theorem Unswitched.before {e : Core × Input} (unswitched : Unswitched (later ++ [e])) :
    Unswitched later := fun earlier member => unswitched earlier (List.mem_append_left _ member)

theorem posts_concat (c : Core) (steps : List AdvStep) (step : AdvStep) :
    ((steps ++ [step]).filterMap c.advPost?).map Post.frame =
      (steps.filterMap c.advPost?).map Post.frame ++
        ((c.advPost? step).map Post.frame).toList := by
  rw [List.filterMap_append, List.map_append]
  congr 1
  cases posts : c.advPost? step <;> simp [posts]

theorem unacknowledged_one (command : Command) (rest : List Command) (input : Input) :
    unacknowledged (command :: rest) [input] =
      if input.completes? = some command.opcode then rest else command :: rest := by
  simp only [unacknowledged]

theorem Unswitched.last {e : Core × Input} (unswitched : Unswitched (later ++ [e])) :
    ∀ on, e.2 ≠ .setPlaneMode on :=
  unswitched e (List.mem_append_right _ List.mem_cons_self)

theorem Core.SettingUp.of_place {step : AdvStep} (setting : c.SettingUp step)
    (same : d.place = c.place) : d.SettingUp step := by
  have phase : d.phase = c.phase := congrArg Place.phase same
  have initStep : d.initStep = c.initStep := congrArg Place.initStep same
  refine ⟨?_, (congrArg Place.advStep same : d.advStep = _).trans setting.here,
    (congrArg Place.awaited same : d.awaited = _).trans setting.awaited⟩
  rw [phase, initStep]
  exact setting.running

variable (sized : c.name.length ≤ Advertising.nameCapacity) (input : Input)
  (undisturbed : Undisturbed (d, input))

include sized undisturbed in
/-- The completion that is waited for has the next command queued. -/
theorem Setup.completed {sent behind : List AdvStep} {step : AdvStep} {command : Command}
    (split : sent ++ step :: behind = announcement) (setting : d.SettingUp step)
    (sends : step.command? = some command) (alike : c.Alike d)
    (wants : Unswitched later → d.wants = !c.planeMode ∧ d.planeMode = c.planeMode)
    (queued : (((sent ++ [step]).filterMap c.advPost?).map Post.frame).Sublist
      (announced c begun later)) (completes : input.completes? = some command.opcode) :
    Setup c begun (later ++ [(d, input)]) (behind.filterMap AdvStep.command?) (d.step input) := by
  have enters (unfinished : step.next d.wants ≠ .finished) :
      d.GoesOn (step.next d.wants) (d.step input) ∧ announced c begun (later ++ [(d, input)]) =
        announced c begun later ++ ((c.advPost? (step.next d.wants)).map Post.frame).toList := by
    have next := setting.step_completed sends completes unfinished (alike.name ▸ sized)
      undisturbed.room
    refine ⟨next, ?_⟩
    rw [announced_append, Core.enqueued_append undisturbed.continues next.queued, alike.advPost?]
  cases behind with
  | nil =>
    obtain rfl := last_of_announcement split
    refine .done d.wants (fun unswitched => (wants unswitched.before).1) ?_
    rw [split] at queued
    cases wanted : d.wants with
    | true =>
      have unfinished : AdvStep.setDeviceName.next d.wants ≠ .finished := by
        rw [wanted]
        decide
      rw [(enters unfinished).2, wanted]
      exact queued.append_right _
    | false =>
      rw [announced_append]
      exact queued.trans (List.sublist_append_left _ _)
  | cons next behind =>
    have unfinished : step.next d.wants ≠ .finished := by
      rw [next_of_announcement split]
      rintro rfl
      have member : AdvStep.finished ∈ announcement := by
        rw [← split]
        simp
      exact absurd member (by decide)
    obtain ⟨entered, posted⟩ := enters unfinished
    obtain ⟨command, sends⟩ := next_sends unfinished
    obtain rfl := next_of_announcement split d.wants
    rw [List.append_cons] at split
    rw [List.filterMap_cons_some sends]
    refine .running split entered.toSettingUp sends (alike.trans entered.toAlike)
      (fun unswitched => ?_) ?_
    · obtain ⟨wanted, kept⟩ := wants unswitched.before
      exact ⟨entered.wants.trans wanted, entered.planeMode.trans kept⟩
    · rw [posted, posts_concat]
      exact queued.append (List.Sublist.refl _)

include sized undisturbed in
theorem Setup.next (setup : Setup c begun later left d) :
    Setup c begun (later ++ [(d, input)]) (unacknowledged left [input]) (d.step input) := by
  cases setup with
  | done wanted wants queued =>
    rw [unacknowledged_nil]
    refine .done wanted (fun unswitched => wants unswitched.before) ?_
    rw [announced_append]
    exact queued.trans (List.sublist_append_left _ _)
  | running split setting sends alike wants queued =>
    rw [unacknowledged_one]
    split
    · rename_i completes
      exact Setup.completed sized input undisturbed split setting sends alike wants queued completes
    · rename_i other
      have place : (d.step input).place = d.place :=
        setting.step_other sends other undisturbed.continues undisturbed.connected
          undisturbed.written
      refine .running split (setting.of_place place) sends
        (alike.trans (Core.step_alike undisturbed.unnamed place)) (fun unswitched => ?_) ?_
      · have planeMode := Core.step_planeMode (c := d) unswitched.last
        obtain ⟨wanted, same⟩ := wants unswitched.before
        exact ⟨(Core.wants_congr place planeMode).trans wanted, planeMode.trans same⟩
      · rw [announced_append]
        exact queued.trans (List.sublist_append_left _ _)

/-- A full setup goes on to its end, whatever comes in between. -/
theorem Run.setup (sets : c.SetsUp begun) (sized : c.name.length ≤ Advertising.nameCapacity)
    (room : c.outbox.length < outboxCapacity) (run : Run (c.step begun) later after)
    (undisturbed : ∀ e ∈ later, Undisturbed e) :
    Setup c begun later (unacknowledged [.updateAdvData, .setScanResponse, .updateCharValue]
      (later.map Prod.snd)) after := by
  induction run with
  | start =>
    obtain ⟨d, entered, setting, alike, outbox, planeMode, wanted⟩ := sets.begins
    have wants : d.wants = !c.planeMode := by
      rw [Core.wants, planeMode, wanted]
      exact ite_self _
    have first := setting.goesOn (wanted.trans wants.symm) nofun (alike.name ▸ sized)
      (outbox ▸ room)
    have queued := first.queued
    rw [← entered, outbox, alike.advPost?] at queued
    have split : [] ++ .setAdvData :: [.setScanResponse, .setDeviceName] = announcement := rfl
    rw [entered]
    refine .running split first.toSettingUp rfl (alike.trans first.toAlike)
      (fun _ => ⟨first.wants.trans wants, first.planeMode.trans planeMode⟩) ?_
    rw [announced, Core.enqueued_append sets.continues queued]
    exact List.sublist_append_left _ _
  | @next later d run input ih =>
    rw [List.forall_mem_append, List.forall_mem_singleton] at undisturbed
    rw [List.map_append, unacknowledged_append]
    exact (ih undisturbed.1).next sized input undisturbed.2

end CardLink.Controller
