import CardLink.Proofs.Controller.Standing

namespace CardLink.Controller

/-- Where the sequences stand, and whatever else of the link they set. -/
structure Footing where
  phase : Phase
  initStep : InitStep
  advStep : AdvStep
  awaited : Option Command
  ready : Bool
  nameChanged : Bool
  advWanted : Bool
  advertising : Bool
  handles : Handles
  /-- The handle of the current connection. -/
  connected : UInt16
  clearPairing : Bool

namespace Footing

variable (f : Footing)

/-- The step of advertising is left. -/
def left : Footing :=
  match f.advStep with
  | .idle => { f with connected := noConnection, advertising := false }
  | .start => { f with advertising := true }
  | .setAdvData | .setScanResponse | .setDeviceName | .finished => f

/-- The step of advertising is left, and the next one is entered. -/
def advanced : Footing :=
  let step := f.advStep.next f.advWanted
  { f.left with
    advStep := step
    awaited := step.command?.or f.awaited
    phase := if step = .finished ∧ f.phase = .configuringAdvertising then .ready else f.phase }

/-- Advertising starts again, with its payloads if the name is new. -/
def readvertised (planeMode : Bool) : Footing :=
  advanced { f with
    phase := .configuringAdvertising
    advStep := if f.nameChanged then .idle else .setDeviceName
    nameChanged := false
    awaited := none
    advWanted := !planeMode }

/-- The initialisation is over. -/
def finished : Footing := { f with clearPairing := false, ready := true, phase := .ready }

theorem left_eq : ∃ connected on, f.left = { f with connected := connected, advertising := on } := by
  unfold left
  split <;> exact ⟨_, _, rfl⟩

theorem advanced_eq : ∃ connected on, f.advanced = { f with
    connected := connected
    advertising := on
    advStep := f.advStep.next f.advWanted
    awaited := (f.advStep.next f.advWanted).command?.or f.awaited
    phase := if f.advStep.next f.advWanted = .finished ∧ f.phase = .configuringAdvertising
      then .ready else f.phase } := by
  obtain ⟨connected, on, left⟩ := f.left_eq
  rw [advanced, left]
  exact ⟨connected, on, rfl⟩

theorem readvertised_connected (planeMode : Bool) :
    (f.readvertised planeMode).connected = noConnection ∨
      (f.readvertised planeMode).connected = f.connected := by
  simp only [readvertised, advanced, left]
  cases f.nameChanged
  · exact .inr rfl
  · exact .inl rfl

end Footing

namespace Core

variable {c d after : Core}

def footing (c : Core) : Footing where
  phase := c.phase
  initStep := c.initStep
  advStep := c.advStep
  awaited := c.awaited
  ready := c.ready
  nameChanged := c.nameChanged
  advWanted := c.advWanted
  advertising := c.advertising
  handles := c.handles
  connected := c.connection.handle
  clearPairing := c.clearPairing

/-- The link on another footing, and the same in all that no sequence sets. -/
def placed (c : Core) (f : Footing) : Core :=
  { c with
    phase := f.phase
    initStep := f.initStep
    advStep := f.advStep
    awaited := f.awaited
    ready := f.ready
    nameChanged := f.nameChanged
    advWanted := f.advWanted
    advertising := f.advertising
    handles := f.handles
    connection := { c.connection with handle := f.connected }
    clearPairing := f.clearPairing }

/-- Queues a command, if there is one. -/
def dispatch (c : Core) (command? : Option Command) (params : List UInt8) : Core :=
  match command? with
  | none => c
  | some command => c.send command params

theorem send_placed (c : Core) (f : Footing) (command : Command) (params : List UInt8) :
    (c.placed f).send command params = (c.send command params).placed f := by
  have outbox : (c.placed f).outbox = c.outbox := rfl
  unfold send
  rw [outbox]
  split
  · rfl
  · split <;> rfl

theorem dispatch_placed (c : Core) (f : Footing) (command? : Option Command)
    (params : List UInt8) :
    (c.placed f).dispatch command? params = (c.dispatch command? params).placed f := by
  cases command? with
  | none => rfl
  | some command => exact c.send_placed f command params

theorem dispatch_surroundings (c : Core) (command? : Option Command) (params : List UInt8) :
    (c.dispatch command? params).surroundings = c.surroundings := by
  cases command? with
  | none => rfl
  | some command => exact c.send_surroundings command params

theorem footing_congr (same : after.surroundings = c.surroundings) : after.footing = c.footing :=
  (congrArg footing same :)

theorem dispatch_footing (c : Core) (command? : Option Command) (params : List UInt8) :
    (c.dispatch command? params).footing = c.footing :=
  footing_congr (c.dispatch_surroundings command? params)

theorem sendStep_eq (c : Core) (command? : Option Command) (params : List UInt8) :
    c.sendStep command? params =
      (c.placed { c.footing with awaited := command?.or c.awaited }).dispatch command? params := by
  cases command? <;> rfl

theorem enterAdvStep_eq (c : Core) : c.enterAdvStep =
    (c.placed { c.footing with
      awaited := c.advStep.command?.or c.awaited
      phase := if c.advStep = .finished ∧ c.phase = .configuringAdvertising then .ready
        else c.phase }).dispatch c.advStep.command? (c.advParams c.advStep) := by
  have sent := c.sendStep_eq c.advStep.command? (c.advParams c.advStep)
  have stands := dispatch_footing (c.placed { c.footing with
    awaited := c.advStep.command?.or c.awaited }) c.advStep.command? (c.advParams c.advStep)
  rw [← sent] at stands
  have step := congrArg Footing.advStep stands
  have phase := congrArg Footing.phase stands
  simp only [footing, placed] at step phase
  simp only [enterAdvStep, step, phase]
  split
  · rw [sent, dispatch_placed, dispatch_placed]
    rfl
  · rw [sent]
    rfl

theorem leaveAdvStep_eq (c : Core) : c.leaveAdvStep = c.placed c.footing.left := by
  have stands : c.footing.advStep = c.advStep := rfl
  rw [leaveAdvStep, Footing.left, stands]
  cases c.advStep <;> rfl

/-- What a step of advertising sets and sends. -/
theorem stepAdvertising_eq (c : Core) : c.stepAdvertising =
    (c.placed c.footing.advanced).dispatch (c.advStep.next c.advWanted).command?
      (c.advParams (c.advStep.next c.advWanted)) := by
  obtain ⟨connected, on, left⟩ := c.footing.left_eq
  rw [stepAdvertising, leaveAdvStep_eq, enterAdvStep_eq, Footing.advanced, left]
  rfl

/-- The step with which advertising starts again. -/
def readvertisedStep (c : Core) : AdvStep :=
  if c.nameChanged then .setAdvData else if c.planeMode then .finished else .start

theorem startAdvertising_eq (c : Core) : c.startAdvertising =
    (c.placed (c.footing.readvertised c.planeMode)).dispatch c.readvertisedStep.command?
      (c.advParams c.readvertisedStep) := by
  have next : (if c.nameChanged then AdvStep.idle else .setDeviceName).next (!c.planeMode) =
      c.readvertisedStep := by
    unfold readvertisedStep
    cases c.nameChanged <;> cases c.planeMode <;> rfl
  rw [startAdvertising, stepAdvertising_eq]
  simp only [next]
  rfl

/-- The bonds are cleared at the end if that was asked for. -/
theorem finishInit_eq (c : Core) : c.finishInit = (c.placed c.footing.finished).dispatch
    (if c.clearPairing then some .clearSecurityDb else none) [] := by
  unfold finishInit
  cases asked : c.clearPairing with
  | false =>
    simp only [Bool.false_eq_true, if_false, asked]
    rfl
  | true =>
    have sent := c.send_placed { c.footing with clearPairing := false } .clearSecurityDb []
    exact (congrArg (fun d : Core => { d with ready := true, phase := .ready }) sent).trans
      (c.send_placed c.footing.finished .clearSecurityDb []).symm

/-- The last step but one goes on to advertising, the last one ends the initialisation, and every
other one sends its command. -/
theorem enterInitStep_cases (c : Core) :
    (c.initStep = .configureAdvertising ∧ c.enterInitStep = stepAdvertising { c with
      awaited := none, advStep := .idle, advWanted := !c.planeMode }) ∨
    (c.initStep = .finished ∧ c.enterInitStep = c.finishInit) ∨
    (c.initStep ≠ .configureAdvertising ∧ c.initStep ≠ .finished ∧
      c.enterInitStep = (c.placed { c.footing with
        awaited := c.initStep.command?.or c.awaited }).dispatch c.initStep.command?
          (c.initParams c.initStep)) := by
  unfold enterInitStep
  split
  · rename_i here
    exact .inl ⟨here, rfl⟩
  · rename_i here
    exact .inr (.inl ⟨here, rfl⟩)
  · rename_i unadvertised unfinished
    exact .inr (.inr ⟨unadvertised, unfinished, c.sendStep_eq _ _⟩)

theorem stepAdvertising_footing (c : Core) : c.stepAdvertising.footing = c.footing.advanced := by
  rw [stepAdvertising_eq, dispatch_footing]
  rfl

theorem stepAdvertising_advStep (c : Core) :
    c.stepAdvertising.advStep = c.advStep.next c.advWanted :=
  congrArg Footing.advStep c.stepAdvertising_footing

/-- Only handles are learnt from a reply. -/
theorem learnHandles_eq (c : Core) (reply : List UInt8) :
    ∃ handles, c.learnHandles reply = { c with handles := handles } := by
  unfold learnHandles
  split
  case h_6 => exact ⟨c.handles, rfl⟩
  all_goals
    split
    · exact ⟨_, rfl⟩
    · exact ⟨c.handles, rfl⟩

/-- A completion ends a step of its own, a step of advertising that is not the last one, or the
whole of the initialisation. -/
theorem stepInit_cases (c : Core) (reply : List UInt8) :
    (c.initStep ≠ .configureAdvertising ∧ ∃ handles,
      c.learnHandles reply = { c with handles := handles } ∧
      c.stepInit reply = enterInitStep { c with
        handles := handles, initStep := c.initStep.next }) ∨
    (c.initStep = .configureAdvertising ∧ c.advStep.next (!c.planeMode) ≠ .finished ∧
      c.stepInit reply = stepAdvertising { c with advWanted := !c.planeMode }) ∨
    (c.initStep = .configureAdvertising ∧ c.advStep.next (!c.planeMode) = .finished ∧
      c.stepInit reply = finishInit (c.placed { Footing.advanced
        { c.footing with advWanted := !c.planeMode } with initStep := .finished })) := by
  have step := stepAdvertising_advStep { c with advWanted := !c.planeMode }
  by_cases advertising : c.initStep = .configureAdvertising
  · right
    by_cases last : c.advStep.next (!c.planeMode) = .finished
    · refine .inr ⟨advertising, last, ?_⟩
      let f := Footing.advanced { c.footing with advWanted := !c.planeMode }
      have advertised : stepAdvertising { c with advWanted := !c.planeMode } = c.placed f := by
        rw [stepAdvertising_eq]
        simp only [last]
        rfl
      have here : (c.placed f).initStep.next = .finished := by
        obtain ⟨connected, on, advanced⟩ :=
          Footing.advanced_eq { c.footing with advWanted := !c.planeMode }
        rw [show f = _ from advanced]
        exact (congrArg InitStep.next advertising).trans rfl
      rw [stepInit, if_pos advertising, if_pos (step.trans last), advertised, nextInitStep, here]
      rfl
    · refine .inl ⟨advertising, last, ?_⟩
      have step : (stepAdvertising { c with advWanted := !c.planeMode }).advStep ≠ .finished :=
        step ▸ last
      rw [stepInit, if_pos advertising, if_neg step]
  · obtain ⟨handles, learned⟩ := c.learnHandles_eq reply
    refine .inl ⟨advertising, handles, learned, ?_⟩
    rw [stepInit, if_neg advertising, learned]
    rfl

theorem dispatch_standing (c : Core) (f : Footing) (command? : Option Command)
    (params : List UInt8) : ((c.placed f).dispatch command? params).standing =
      ⟨f.phase, f.initStep, f.ready, c.advRequest⟩ :=
  standing_congr (dispatch_surroundings _ _ _)

/-- A step of advertising leaves everything alone, except that it may end the configuration. -/
theorem stepAdvertising_standing (c : Core) : c.stepAdvertising.standing = c.standing ∨
    c.phase = .configuringAdvertising ∧
      c.stepAdvertising.standing = { c.standing with phase := .ready } := by
  obtain ⟨connected, on, advanced⟩ := c.footing.advanced_eq
  rw [stepAdvertising_eq, advanced, dispatch_standing]
  dsimp only
  split
  · rename_i ended
    exact .inr ⟨ended.2, rfl⟩
  · exact .inl rfl

theorem startAdvertising_standing (c : Core) :
    ∃ phase, (phase = .configuringAdvertising ∨ phase = .ready) ∧
      c.startAdvertising.standing = { c.standing with phase := phase } := by
  rcases stepAdvertising_standing { c with
      phase := .configuringAdvertising
      advStep := if c.nameChanged then .idle else .setDeviceName
      nameChanged := false
      awaited := none
      advWanted := !c.planeMode } with kept | ⟨_, ended⟩
  · exact ⟨.configuringAdvertising, .inl rfl, kept⟩
  · exact ⟨.ready, .inr rfl, ended⟩

theorem finishInit_standing (c : Core) :
    c.finishInit.standing = { c.standing with phase := .ready, ready := true } := by
  rw [finishInit_eq, dispatch_standing]
  rfl

theorem enterInitStep_standing {c : Core} (initializing : c.phase = .initializing) :
    c.enterInitStep.standing = c.standing ∨ c.initStep = .finished ∧
      c.enterInitStep.standing = { c.standing with phase := .ready, ready := true } := by
  rcases c.enterInitStep_cases with ⟨-, advertised⟩ | ⟨last, finished⟩ | ⟨-, -, sent⟩
  · rcases stepAdvertising_standing { c with
        awaited := none, advStep := .idle, advWanted := !c.planeMode } with kept | ⟨configuring, -⟩
    · exact .inl (advertised ▸ kept)
    · exact absurd (initializing.symm.trans configuring) (by decide)
  · exact .inr ⟨last, finished ▸ c.finishInit_standing⟩
  · rw [sent, dispatch_standing]
    exact .inl rfl

/-- A step of the initialisation goes on to another step or ends in readiness. -/
theorem stepInit_standing {c : Core} (initializing : c.phase = .initializing)
    (reply : List UInt8) :
    (∃ step, (c.stepInit reply).standing = { c.standing with initStep := step }) ∨
      (c.stepInit reply).standing =
        { c.standing with phase := .ready, initStep := .finished, ready := true } := by
  rcases c.stepInit_cases reply with
    ⟨-, handles, -, entered⟩ | ⟨-, -, advertised⟩ | ⟨-, -, finished⟩
  · rw [entered]
    rcases enterInitStep_standing (c := { c with
        handles := handles, initStep := c.initStep.next }) initializing with kept | ⟨last, ended⟩
    · exact .inl ⟨c.initStep.next, kept⟩
    · have last : c.initStep.next = .finished := last
      exact .inr (ended.trans (by rw [← last]; rfl))
  · rw [advertised]
    rcases stepAdvertising_standing { c with advWanted := !c.planeMode } with kept | ⟨configuring, -⟩
    · exact .inl ⟨c.initStep, kept⟩
    · exact absurd (initializing.symm.trans configuring) (by decide)
  · rw [finished, finishInit_standing]
    exact .inr rfl

/-- A new initialisation forgets the connection and sends the reset of the controller. -/
theorem beginInit_eq (c : Core) : c.beginInit = send { resetMtu (resetTransfer { c with
      ready := false
      phase := .initializing
      initStep := .reset
      advStep := .idle
      awaited := some .reset
      advRequest := none
      advertising := false
      handles := {}
      connection := {}
      connectionUpdated := false
      notifications := false }) with outbox := [] } .reset [] := rfl

theorem beginInit_standing (c : Core) :
    c.beginInit.standing = ⟨.initializing, .reset, false, none⟩ := by
  rw [beginInit_eq, send_standing]
  rfl

/-- Parameters that carry the name of the link, if their command is one that shows it. -/
structure Carries (c : Core) (command : Command) (params : List UInt8) : Prop where
  data : command = .updateAdvData → params = c.advDataParams
  discoverable : command = .setDiscoverable → params = c.discoverableParams
  value : command = .updateCharValue → params.drop 6 = c.name

theorem advParams_carries (c : Core) (step : AdvStep) :
    ∀ command ∈ step.command?, c.Carries command (c.advParams step) := by
  intro command sent
  cases step <;> cases sent
  case setAdvData => exact ⟨fun _ => rfl, nofun, nofun⟩
  case setScanResponse => exact ⟨nofun, nofun, nofun⟩
  case setDeviceName => exact ⟨nofun, nofun, fun _ => rfl⟩
  case start => exact ⟨nofun, fun _ => rfl, nofun⟩

theorem initParams_carries (c : Core) (step : InitStep) :
    ∀ command ∈ step.command?, c.Carries command (c.initParams step) := by
  intro command sent
  cases step <;> cases sent <;> exact ⟨nofun, nofun, nofun⟩

/-- A sequence moves on and sends at most one command. -/
def Sequenced (c after : Core) : Prop :=
  ∃ f command? params, after = (c.placed f).dispatch command? params ∧
    ∀ command ∈ command?, c.Carries command params

theorem Sequenced.of_placed {f : Footing} (sequenced : (c.placed f).Sequenced after) :
    c.Sequenced after := by
  obtain ⟨g, command?, params, same, carries⟩ := sequenced
  exact ⟨g, command?, params, same, fun command sent =>
    have carried := carries command sent
    ⟨carried.data, carried.discoverable, carried.value⟩⟩

theorem stepAdvertising_sequenced (c : Core) : c.Sequenced c.stepAdvertising :=
  ⟨_, _, _, c.stepAdvertising_eq, c.advParams_carries _⟩

theorem startAdvertising_sequenced (c : Core) : c.Sequenced c.startAdvertising :=
  ⟨_, _, _, c.startAdvertising_eq, c.advParams_carries _⟩

theorem finishInit_sequenced (c : Core) : c.Sequenced c.finishInit := by
  refine ⟨_, _, _, c.finishInit_eq, fun command sent => ?_⟩
  split at sent
  · cases sent
    exact ⟨nofun, nofun, nofun⟩
  · cases sent

theorem enterInitStep_sequenced (c : Core) : c.Sequenced c.enterInitStep := by
  rcases c.enterInitStep_cases with ⟨-, advertised⟩ | ⟨-, finished⟩ | ⟨-, -, sent⟩
  · rw [advertised]
    exact .of_placed (f := { c.footing with
      awaited := none, advStep := .idle, advWanted := !c.planeMode }) (stepAdvertising_sequenced _)
  · rw [finished]
    exact c.finishInit_sequenced
  · exact ⟨_, _, _, sent, c.initParams_carries _⟩

theorem stepInit_sequenced (c : Core) (reply : List UInt8) : c.Sequenced (c.stepInit reply) := by
  rcases c.stepInit_cases reply with
    ⟨-, handles, -, entered⟩ | ⟨-, -, advertised⟩ | ⟨-, -, finished⟩
  · rw [entered]
    exact .of_placed (f := { c.footing with
      handles := handles, initStep := c.initStep.next }) (enterInitStep_sequenced _)
  · rw [advertised]
    exact .of_placed (f := { c.footing with advWanted := !c.planeMode })
      (stepAdvertising_sequenced _)
  · rw [finished]
    exact .of_placed (finishInit_sequenced _)

end Core

end CardLink.Controller
