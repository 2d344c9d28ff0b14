import CardLink.Proofs.Controller.Prompts

namespace CardLink

namespace Advertising

theorem fittingBytes_length (room : Nat) (text : List Char) :
    (fittingBytes room text).length ≤ room := by
  induction text generalizing room with
  | nil => exact Nat.zero_le room
  | cons c rest ih =>
    simp only [fittingBytes]
    split
    · rename_i fits
      have := ih (room - (String.utf8EncodeChar c).length)
      rw [List.length_append]
      omega
    · exact Nat.zero_le room

theorem payload_length (name : List UInt8) : (payload name).length ≤ capacity := by
  simp only [payload, capacity, List.length_append, List.length_cons, List.length_nil,
    List.length_take]
  omega

theorem localName_length (name : List UInt8) : (localName name).length ≤ capacity := by
  simp only [localName, capacity, List.length_cons, List.length_take]
  omega

end Advertising

/-- The most bytes of parameters that there is room for. -/
def Command.room : Command → Nat
  | writeResponse => 7 + messageCapacity
  | updateCharValue => 6 + messageCapacity
  | setDiscoverable => 48
  | updateAdvData | setScanResponse => 32
  | addChar => 26
  | addService => 19
  | setAuthRequirement => 12
  | updateConnection => 10
  | writeConfig => 8
  | passKeyResponse => 6
  | gapInit | confirmComparison => 3
  | setTxPower | confirmIndication | exchangeConfig => 2
  | setIoCapability => 1
  | reset | gattInit | clearSecurityDb | setNonDiscoverable | disconnect => 0

namespace Controller

/-- The commands of an initialisation. A device in plane mode does not start to advertise. -/
def bringUp (planeMode : Bool) : List Command :=
  [.reset, .writeConfig, .gattInit, .gapInit, .setIoCapability, .setAuthRequirement, .addService,
    .addChar, .addChar, .addChar, .setTxPower, .updateAdvData, .setScanResponse,
    .updateCharValue] ++ if planeMode then [] else [.setDiscoverable]

/-- A step of the initialisation, which in its last one goes through those of advertising. -/
inductive Stage where
  | init (step : InitStep)
  | advertise (step : AdvStep)

namespace Stage

/-- The command that a stage queues when it is entered. -/
def command? : Stage → Option Command
  | init step => step.command?
  | advertise step => step.command?

def next (wanted : Bool) : Stage → Stage
  | init .txPower => advertise .setAdvData
  | init step => init step.next
  | advertise step =>
    if step.next wanted = .finished then init .finished else advertise (step.next wanted)

theorem next_init {step : InitStep} (other : step ≠ .txPower) (wanted : Bool) :
    (init step).next wanted = init step.next := by
  unfold next
  split
  · rename_i same
    exact absurd (init.inj same) other
  · rename_i same
    exact congrArg (init ∘ InitStep.next) (init.inj same).symm
  · rename_i different
    cases different

/-- The commands from a stage to the end of the initialisation. -/
inductive Ahead (wanted : Bool) : Stage → List Command → Prop
  | done : Ahead wanted (init .finished) []
  | step {stage : Stage} {command : Command} {later : List Command}
      (queues : stage.command? = some command) (rest : Ahead wanted (stage.next wanted) later) :
      Ahead wanted stage (command :: later)

theorem Ahead.queues {wanted : Bool} {stage : Stage} {command : Command} {later : List Command}
    (ahead : stage.Ahead wanted (command :: later)) : stage.command? = some command := by
  cases ahead
  assumption

theorem Ahead.rest {wanted : Bool} {stage : Stage} {command : Command} {later : List Command}
    (ahead : stage.Ahead wanted (command :: later)) : (stage.next wanted).Ahead wanted later := by
  cases ahead
  assumption

theorem Ahead.finished {wanted : Bool} {stage : Stage} (ahead : stage.Ahead wanted []) :
    stage = init .finished := by
  cases ahead
  rfl

theorem ahead_bringUp (planeMode : Bool) :
    (init .reset).Ahead (!planeMode) (bringUp planeMode) := by
  cases planeMode
  all_goals repeat' first | exact .done | refine .step rfl ?_

end Stage

/-- The opcode of the command that an input completes. -/
def Input.completes? : Input → Option UInt16
  | .packet event => if event.kind = .commandComplete then event.opcode else none
  | _ => none

theorem Input.of_completes {input : Input} {opcode : UInt16}
    (completes : input.completes? = some opcode) : ∃ packet, input = .packet packet ∧
      packet.kind = .commandComplete ∧ packet.opcode = some opcode := by
  cases input with
  | packet packet =>
    obtain ⟨kind, answered⟩ := Option.ite_none_right_eq_some.mp completes
    exact ⟨packet, rfl, kind, answered⟩
  | _ => cases completes

/-- The completion of any command, or a tick. -/
def Input.Routine : Input → Prop
  | .packet event => event.kind = .commandComplete
  | .tick => True
  | _ => False

/-- What is left of a list of commands that are to be completed one after the other. -/
def unacknowledged : List Command → List Input → List Command
  | commands, [] => commands
  | [], _ :: _ => []
  | awaited :: later, input :: inputs =>
    if input.completes? = some awaited.opcode then unacknowledged later inputs
    else unacknowledged (awaited :: later) inputs

theorem unacknowledged_nil (inputs : List Input) : unacknowledged [] inputs = [] := by
  cases inputs <;> rfl

theorem unacknowledged_append (commands : List Command) (inputs later : List Input) :
    unacknowledged commands (inputs ++ later) =
      unacknowledged (unacknowledged commands inputs) later := by
  induction inputs generalizing commands with
  | nil => rw [List.nil_append, unacknowledged]
  | cons input inputs ih =>
    cases commands with
    | nil => rw [unacknowledged_nil, unacknowledged_nil, unacknowledged_nil]
    | cons awaited rest =>
      rw [List.cons_append, unacknowledged, unacknowledged]
      split <;> exact ih _

/-- What has been queued of the commands of an initialisation, and the state that is reached, when
some of them are still to be completed. -/
inductive Progress (commands : List Command) (clearing : Bool) :
    List Command → List (List UInt8) × Core → Prop
  /-- The awaited command is the last one that was queued, and only its completion is noticed. -/
  | waiting {awaited : Command} {later : List Command} {queued : List (List UInt8)} {reached : Core}
      (opcodes : queued.map Frame.opcode ++ later.map Command.opcode =
        commands.map Command.opcode)
      (empty : reached.outbox = []) (initializing : reached.phase = .initializing)
      (unready : reached.ready = false)
      (deaf : ∀ input : Input, input.Routine → input.completes? ≠ some awaited.opcode →
        reached.step input = reached) :
      Progress commands clearing (awaited :: later) (queued, reached)
  | done {queued : List (List UInt8)} {reached : Core}
      (opcodes : queued.map Frame.opcode =
        (commands ++ if clearing then [Command.clearSecurityDb] else []).map Command.opcode)
      (empty : reached.outbox = []) (initialized : reached.phase = .ready)
      (ready : reached.ready = true) : Progress commands clearing [] (queued, reached)

theorem Progress.queued {commands left : List Command} {clearing : Bool} {command : Command}
    {frame : List UInt8} {later : List (List UInt8) × Core}
    (progress : Progress commands clearing left later)
    (opcode : Frame.opcode frame = command.opcode) :
    Progress (command :: commands) clearing left (frame :: later.1, later.2) := by
  cases progress with
  | waiting opcodes empty initializing unready deaf =>
    refine .waiting ?_ empty initializing unready deaf
    rw [List.map_cons, List.cons_append, opcodes, opcode, List.map_cons]
  | done opcodes empty initialized ready =>
    refine .done ?_ empty initialized ready
    rw [List.map_cons, opcodes, opcode, List.cons_append, List.map_cons]

namespace Core

variable {c : Core}

/-- The name and the address fit the commands that tell the controller about them. -/
structure Sized (c : Core) : Prop where
  name : c.name.length ≤ Advertising.nameCapacity
  address : c.address.length = 6

/-- Takes every queued frame. -/
def drain (c : Core) : List (List UInt8) × Core := (c.outbox, { c with outbox := [] })

theorem drain_eq (c : Core) : c.drain =
    match c.nextCommand with
    | (none, rest) => ([], rest)
    | (some frame, rest) => (frame :: rest.drain.1, rest.drain.2) := by
  unfold drain nextCommand
  cases queued : c.outbox with
  | nil => simp only [← queued]
  | cons frame rest => rfl

/-- What is queued when the outbox is emptied before every input and at the end, and the state that
is reached. -/
def play (c : Core) : List Input → List (List UInt8) × Core
  | [] => c.drain
  | input :: inputs =>
    let (frames, c) := c.drain
    let (later, c) := (c.step input).play inputs
    (frames ++ later, c)

theorem drain_empty (empty : c.outbox = []) : c.drain = ([], c) := by
  simp only [drain, ← empty]

theorem play_cons (empty : c.outbox = []) (input : Input) (inputs : List Input) :
    c.play (input :: inputs) = (c.step input).play inputs := by
  rw [play, drain_empty empty]
  rfl

theorem play_queued (empty : c.outbox = []) (frames : List (List UInt8)) (inputs : List Input) :
    { c with outbox := frames }.play inputs =
      (frames ++ (c.play inputs).1, (c.play inputs).2) := by
  cases inputs with
  | nil =>
    rw [play, play, drain_empty empty, List.append_nil]
    simp only [drain, ← empty]
  | cons input inputs =>
    rw [play_cons empty]
    simp only [play, drain, ← empty]

/-- No host is connected, no message is exchanged and no request is pending. -/
structure Quiet (c : Core) : Prop where
  unconnected : c.connection.handle = noConnection
  unrequested : c.advRequest = none
  unsent : c.chunkInFlight = false
  answered : c.awaitingWriteAck = false
  untimed : c.transferTimeout.phase = .idle
  empty : c.outbox = []

theorem Quiet.onTick (quiet : c.Quiet) : c.onTick = c := by
  have still : c.transferTimeout.tick (Settings.microseconds c.settings.tick) =
      c.transferTimeout := by
    rw [Countdown.tick, quiet.untimed]
    rfl
  have unexpired : c.transferTimeout.phase ≠ .expired := by
    rw [quiet.untimed]
    decide
  simp only [Core.onTick, still, if_neg unexpired]

/-- Where the initialisation stands. -/
def stage (c : Core) : Stage :=
  if c.initStep = .configureAdvertising then .advertise c.advStep else .init c.initStep

/-- Nothing but the initialisation goes on. -/
structure Calm (c : Core) : Prop extends c.Quiet, c.Sized where
  initializing : c.phase = .initializing
  unready : c.ready = false
  hidden : c.advertising = false

/-- A command of the initialisation is queued or written, and is to be completed before others. -/
structure Awaiting (c : Core) (awaited : Command) (later : List Command) : Prop extends
    c.Calm where
  waits : c.awaited = some awaited
  ahead : c.stage.Ahead (!c.planeMode) (awaited :: later)

/-- The initialisation is over, and no input has come since that it does not know. -/
structure Settled (c : Core) : Prop extends c.Quiet where
  initialized : c.phase = .ready
  ready : c.ready = true

/-- The state, which awaits a command, after that command has gone into its empty outbox. -/
def Queues (c : Core) (command : Command) (after : Core) : Prop :=
  c.awaited = some command ∧
    ∃ frame, Frame.opcode frame = command.opcode ∧ after = { c with outbox := [frame] }

theorem send_alone (empty : c.outbox = []) (command : Command) (params : List UInt8)
    (short : params.length ≤ 255) : ∃ frame, Frame.opcode frame = command.opcode ∧
      c.send command params = { c with outbox := [frame] } := by
  refine ⟨Frame.packetType :: Word.little command.opcode ++ UInt8.ofNat params.length :: params,
    Word.join_split _, ?_⟩
  simp only [send, Frame.build, if_neg (Nat.not_lt.mpr short), empty]
  rfl

theorem scanResponseParams_length (c : Core) : c.scanResponseParams.length = 32 := rfl

theorem charParams_length (c : Core) (identifier : List UInt8) (property mask : UInt8) :
    (c.charParams identifier property mask).length = identifier.length + 10 := by
  simp only [charParams, List.length_append, List.length_cons, Word.length_little, List.length_nil]
  omega

theorem advParams_short (sized : c.Sized) (step : AdvStep) : (c.advParams step).length ≤ 255 := by
  have name := sized.name
  cases step
  case setAdvData =>
    have payload := Advertising.payload_length c.name
    simp only [advParams, advDataParams, List.length_cons, Advertising.capacity] at payload ⊢
    omega
  case setScanResponse =>
    rw [advParams, scanResponseParams_length]
    decide
  case setDeviceName =>
    simp only [advParams, updateParams, List.length_append, Word.length_little, List.length_cons,
      List.length_nil, Advertising.nameCapacity] at name ⊢
    omega
  case start =>
    have localName := Advertising.localName_length c.name
    simp only [advParams, discoverableParams, List.length_append, Word.length_little,
      List.length_cons, List.length_nil, Advertising.capacity] at localName ⊢
    omega
  case idle | finished => exact Nat.zero_le 255

theorem initParams_room (sized : c.Sized) {step : InitStep} {command : Command}
    (sends : step.command? = some command) :
    (c.initParams step).length ≤ min 255 command.room := by
  cases step <;> cases sends
  case staticAddress =>
    rw [initParams, List.length_append, sized.address]
    decide
  case addNotifyChar | addWriteChar | addWriteCommandChar =>
    rw [initParams, charParams_length]
    decide
  case txPower => exact (by decide : 2 ≤ min 255 Command.setTxPower.room)
  all_goals exact of_decide_eq_true rfl

/-- The state differs in nothing but where the initialisation stands and what it has learned. -/
inductive Advances (c : Core) : Core → Prop
  | mk (initStep : InitStep) (advStep : AdvStep) (advWanted : Bool) (handles : Handles)
      (awaited : Option Command) : c.Advances { c with
        initStep := initStep
        advStep := advStep
        advWanted := advWanted
        handles := handles
        awaited := awaited }

theorem Calm.advances {d : Core} (calm : c.Calm) (advances : c.Advances d) : d.Calm := by
  cases advances
  exact ⟨⟨calm.unconnected, calm.unrequested, calm.unsent, calm.answered, calm.untimed,
    calm.empty⟩, ⟨calm.name, calm.address⟩, calm.initializing, calm.unready, calm.hidden⟩

theorem Advances.trans {d e : Core} (first : c.Advances d) (second : d.Advances e) :
    c.Advances e := by
  cases first
  cases second
  exact .mk _ _ _ _ _

/-- Nothing is advertised during an initialisation until its last step is left. -/
theorem Calm.placed_advanced (calm : c.Calm) : c.placed c.footing.advanced = { c with
    advStep := c.advStep.next c.advWanted
    awaited := (c.advStep.next c.advWanted).command?.or c.awaited
    advertising := decide (c.advStep = .start) } := by
  have left : c.footing.left = { c.footing with advertising := decide (c.advStep = .start) } := by
    have handle : c.footing.connected = noConnection := calm.unconnected
    have hidden : c.footing.advertising = false := calm.hidden
    unfold Footing.left
    split <;> rename_i here <;> have here : c.advStep = _ := here <;> rw [here]
    case h_1 =>
      exact congrArg (fun handle => { c.footing with connected := handle, advertising := false })
        handle.symm
    case h_2 => rfl
    all_goals exact congrArg (fun on => { c.footing with advertising := on }) hidden
  have configuring : ¬c.footing.phase = .configuringAdvertising := by
    change ¬c.phase = _
    rw [calm.initializing]
    decide
  simp only [Footing.advanced, left, configuring, and_false, if_false]
  rfl

theorem Calm.stepAdvertising_queues (calm : c.Calm) {command : Command}
    (queues : (c.advStep.next c.advWanted).command? = some command) :
    ∃ d, c.Advances d ∧ d.initStep = c.initStep ∧ d.advStep = c.advStep.next c.advWanted ∧
      d.Queues command c.stepAdvertising := by
  have moved : c.placed c.footing.advanced = { c with
      advStep := c.advStep.next c.advWanted, awaited := some command } := by
    have before : c.advStep ≠ .start := by
      intro start
      rw [start] at queues
      cases queues
    rw [calm.placed_advanced, queues, decide_eq_false before, ← calm.hidden]
    rfl
  have advances : c.Advances { c with
      advStep := c.advStep.next c.advWanted, awaited := some command } := .mk _ _ _ _ _
  rw [stepAdvertising_eq, queues, moved]
  exact ⟨_, advances, rfl, rfl, rfl,
    send_alone (calm.advances advances).empty _ _ (advParams_short calm.toSized _)⟩

/-- The step after one that is not of advertising queues its command, or that of the first step of
advertising. -/
theorem Calm.nextInitStep_queues (calm : c.Calm) {command : Command}
    (queues : ((Stage.init c.initStep).next (!c.planeMode)).command? = some command) :
    ∃ d, c.Advances d ∧ d.stage = (Stage.init c.initStep).next (!c.planeMode) ∧
      d.Queues command c.nextInitStep := by
  rcases enterInitStep_cases { c with initStep := c.initStep.next } with
    ⟨here, advertised⟩ | ⟨here, -⟩ | ⟨here, -, sent⟩
  · have last : c.initStep = .txPower := by
      cases step : c.initStep <;> simp only [step] at here <;> cases here
      rfl
    have configured : c.Advances { c with
        initStep := .configureAdvertising
        advStep := .idle
        advWanted := !c.planeMode
        awaited := none } := .mk _ _ _ _ _
    rw [last] at queues ⊢
    obtain ⟨d, advances, initStep, advStep, queued⟩ :=
      (calm.advances configured).stepAdvertising_queues queues
    refine ⟨d, configured.trans advances, ?_, ?_⟩
    · rw [stage, if_pos initStep, advStep]
      rfl
    · rw [nextInitStep, advertised]
      simp only [last]
      exact queued
  · cases step : c.initStep <;> simp only [step] at here queues <;> cases here <;> cases queues
  · have other : c.initStep ≠ .txPower := by
      intro last
      simp only [last] at here
      exact here rfl
    rw [Stage.next_init other] at queues ⊢
    have queues : c.initStep.next.command? = some command := queues
    have advances : c.Advances { c with
        initStep := c.initStep.next, awaited := some command } := .mk _ _ _ _ _
    have calm := calm.advances advances
    refine ⟨_, advances, if_neg here, rfl, ?_⟩
    rw [nextInitStep, sent]
    simp only [queues]
    exact send_alone calm.empty _ _
      (Nat.le_trans (initParams_room calm.toSized queues) (Nat.min_le_left ..))

variable {awaited : Command} {later : List Command}

/-- The completion of the awaited command queues the command of the next stage. -/
theorem Calm.stepInit_queues (calm : c.Calm) {command : Command}
    (queues : (c.stage.next (!c.planeMode)).command? = some command) (reply : List UInt8) :
    ∃ d, c.Advances d ∧ d.stage = c.stage.next (!c.planeMode) ∧
      d.Queues command (c.stepInit reply) := by
  rcases c.stepInit_cases reply with
    ⟨other, handles, -, entered⟩ | ⟨advertising, unfinished, advertised⟩ |
      ⟨advertising, finished, -⟩
  · rw [stage, if_neg other] at queues ⊢
    have learns : c.Advances { c with handles := handles } := .mk _ _ _ _ _
    obtain ⟨d, advances, stands, queued⟩ := (calm.advances learns).nextInitStep_queues queues
    rw [entered]
    exact ⟨d, learns.trans advances, stands, queued⟩
  · rw [stage, if_pos advertising, Stage.next, if_neg unfinished] at queues ⊢
    have wanted : c.Advances { c with advWanted := !c.planeMode } := .mk _ _ _ _ _
    obtain ⟨d, advances, initStep, advStep, queued⟩ :=
      (calm.advances wanted).stepAdvertising_queues queues
    refine ⟨d, wanted.trans advances, ?_, ?_⟩
    · rw [stage, if_pos (initStep.trans advertising), advStep]
    · rw [advertised]
      exact queued
  · rw [stage, if_pos advertising, Stage.next, if_pos finished] at queues
    cases queues

/-- The completion of the last command ends the initialisation. -/
theorem Calm.stepInit_finishes (calm : c.Calm) (busy : c.stage.command? = some awaited)
    (last : c.stage.next (!c.planeMode) = .init .finished) (reply : List UInt8) :
    ∃ d advertising, c.Advances d ∧
      c.stepInit reply = { d with advertising := advertising }.finishInit := by
  rcases c.stepInit_cases reply with
    ⟨other, -⟩ | ⟨advertising, unfinished, -⟩ | ⟨-, -, finished⟩
  · rw [stage, if_neg other] at busy last
    cases step : c.initStep <;> rw [step] at busy last <;> cases last
    · exact absurd step other
    · cases busy
  · rw [stage, if_pos advertising, Stage.next, if_neg unfinished] at last
    cases last
  · have wanted : c.Advances { c with advWanted := !c.planeMode } := .mk _ _ _ _ _
    have moved := (calm.advances wanted).placed_advanced
    refine ⟨_, decide (c.advStep = .start), .mk .finished (c.advStep.next (!c.planeMode))
      (!c.planeMode) c.handles ((c.advStep.next (!c.planeMode)).command?.or c.awaited), ?_⟩
    rw [finished]
    exact congrArg (fun d : Core => finishInit { d with initStep := .finished }) moved

theorem awaits_awaited (waits : c.awaited = some awaited) : c.awaits awaited.opcode = true := by
  simp only [awaits, waits, beq_self_eq_true]

/-- A running sequence passes over every completion but the one that it waits for. -/
theorem onCommandComplete_other
    (running : c.phase = .initializing ∨ c.phase = .configuringAdvertising)
    (waits : c.awaited = some awaited) {packet : EventPacket}
    (other : packet.opcode ≠ some awaited.opcode) : c.onCommandComplete packet = c := by
  unfold onCommandComplete
  split
  · rfl
  · rename_i opcode completed
    have ignored : ¬c.awaits opcode = true := by
      simp only [awaits, waits, beq_iff_eq]
      rintro rfl
      exact other completed
    rcases running with phase | phase <;> simp only [phase, if_neg ignored]

theorem Awaiting.step_completed (waiting : c.Awaiting awaited later) {input : Input}
    (completes : input.completes? = some awaited.opcode) :
    ∃ reply, c.step input = c.stepInit reply := by
  obtain ⟨packet, rfl, kind, opcode⟩ := Input.of_completes completes
  refine ⟨packet.returnParams, ?_⟩
  simp only [step, onPacket, kind, onCommandComplete, opcode, waiting.initializing,
    awaits_awaited waiting.waits, if_true]

theorem Awaiting.step_other (waiting : c.Awaiting awaited later) {input : Input}
    (routine : input.Routine) (other : input.completes? ≠ some awaited.opcode) :
    c.step input = c := by
  cases input with
  | packet packet =>
    have kind : packet.kind = .commandComplete := routine
    have completes : (Input.packet packet).completes? = packet.opcode := if_pos kind
    simp only [step, onPacket, kind]
    exact onCommandComplete_other (.inl waiting.initializing) waiting.waits (completes ▸ other)
  | tick => exact waiting.onTick
  | _ => exact routine.elim

theorem Awaiting.next {command : Command} (waiting : c.Awaiting awaited (command :: later))
    {input : Input} (completes : input.completes? = some awaited.opcode) :
    ∃ (frame : List UInt8) (d : Core), Frame.opcode frame = command.opcode ∧
      c.step input = { d with outbox := [frame] } ∧ d.Awaiting command later ∧
      d.clearPairing = c.clearPairing := by
  obtain ⟨reply, stepped⟩ := waiting.step_completed completes
  have ahead := waiting.ahead.rest
  obtain ⟨d, advances, stage, awaits, frame, opcode, queued⟩ :=
    waiting.stepInit_queues ahead.queues reply
  have calm := waiting.advances advances
  have same : d.planeMode = c.planeMode ∧ d.clearPairing = c.clearPairing := by
    cases advances
    exact ⟨rfl, rfl⟩
  refine ⟨frame, d, opcode, stepped.trans queued, ⟨calm, awaits, ?_⟩, same.2⟩
  rw [stage, same.1]
  exact ahead

/-- Bonds are cleared at the end if that was asked for. -/
theorem Quiet.finishInit (quiet : c.Quiet) :
    ∃ (frames : List (List UInt8)) (d : Core), frames.map Frame.opcode =
        (if c.clearPairing then [Command.clearSecurityDb] else []).map Command.opcode ∧
      c.finishInit = { d with outbox := frames } ∧ d.Settled := by
  have settled (clearing : Bool) : { c with
      clearPairing := clearing, ready := true, phase := .ready }.Settled :=
    ⟨⟨quiet.unconnected, quiet.unrequested, quiet.unsent, quiet.answered, quiet.untimed,
      quiet.empty⟩, rfl, rfl⟩
  cases clearing : c.clearPairing with
  | false =>
    refine ⟨[], _, rfl, ?_, settled false⟩
    simp only [Core.finishInit, clearing, Bool.false_eq_true, if_false, quiet.empty]
  | true =>
    obtain ⟨frame, opcode, sent⟩ := send_alone (c := { c with clearPairing := false })
      quiet.empty .clearSecurityDb [] (Nat.zero_le 255)
    refine ⟨[frame], _, congrArg (· :: []) opcode, ?_, settled false⟩
    simp only [Core.finishInit, clearing, if_true, sent]

theorem Awaiting.last (waiting : c.Awaiting awaited []) {input : Input}
    (completes : input.completes? = some awaited.opcode) :
    ∃ (frames : List (List UInt8)) (d : Core), frames.map Frame.opcode =
        (if c.clearPairing then [Command.clearSecurityDb] else []).map Command.opcode ∧
      c.step input = { d with outbox := frames } ∧ d.Settled := by
  obtain ⟨reply, stepped⟩ := waiting.step_completed completes
  obtain ⟨d, on, advances, finished⟩ :=
    waiting.stepInit_finishes waiting.ahead.queues waiting.ahead.rest.finished reply
  have same : d.clearPairing = c.clearPairing := by
    cases advances
    rfl
  have calm := waiting.advances advances
  have quiet : { d with advertising := on }.Quiet :=
    ⟨calm.unconnected, calm.unrequested, calm.unsent, calm.answered, calm.untimed, calm.empty⟩
  rw [stepped, finished, ← same]
  exact quiet.finishInit

theorem Settled.step (settled : c.Settled) {input : Input} (routine : input.Routine) :
    (c.step input).Settled := by
  cases input with
  | packet packet =>
    have kind : packet.kind = .commandComplete := routine
    have unconnected : c.connection.isConnected = false := by
      rw [Connection.isConnected, settled.unconnected]
      rfl
    have acked : c.onWriteAck = c := by simp [onWriteAck, settled.answered]
    have notified : c.onNotifyComplete = c := by simp [onNotifyComplete, settled.unsent]
    have switched : c.onAdvertisingSwitched.Settled := by
      simp only [onAdvertisingSwitched, unconnected, settled.unrequested]
      exact ⟨⟨settled.unconnected, rfl, settled.unsent, settled.answered, settled.untimed,
        settled.empty⟩, settled.initialized, settled.ready⟩
    simp only [Core.step, onPacket, kind, onCommandComplete, settled.initialized, acked, notified]
    split
    · exact settled
    split
    · exact settled
    split
    · exact settled
    split
    · exact switched
    · exact settled
  | tick =>
    rw [Core.step, settled.onTick]
    exact settled
  | _ => exact routine.elim

/-- No later completion queues anything. -/
theorem Settled.play (settled : c.Settled) {inputs : List Input}
    (routine : ∀ input ∈ inputs, input.Routine) :
    ∃ reached, c.play inputs = ([], reached) ∧ reached.Settled := by
  induction inputs generalizing c with
  | nil =>
    refine ⟨c, ?_, settled⟩
    rw [Core.play, drain_empty settled.empty]
  | cons input inputs ih =>
    have ⟨now, later⟩ := List.forall_mem_cons.mp routine
    rw [play_cons settled.empty]
    exact ih (settled.step now) later

theorem Awaiting.play (waiting : c.Awaiting awaited later) {inputs : List Input}
    (routine : ∀ input ∈ inputs, input.Routine) :
    Progress later c.clearPairing (unacknowledged (awaited :: later) inputs) (c.play inputs) := by
  induction inputs generalizing c awaited later with
  | nil =>
    rw [Core.play, drain_empty waiting.empty]
    exact .waiting rfl waiting.empty waiting.initializing waiting.unready
      fun _ routine other => waiting.step_other routine other
  | cons input inputs ih =>
    have ⟨now, routine⟩ := List.forall_mem_cons.mp routine
    rw [play_cons waiting.empty, unacknowledged]
    split
    · rename_i completes
      cases later with
      | nil =>
        obtain ⟨frames, d, opcodes, stepped, settled⟩ := waiting.last completes
        obtain ⟨reached, played, result⟩ := settled.play routine
        rw [unacknowledged_nil, stepped, play_queued settled.empty, played, List.append_nil]
        exact .done opcodes result.empty result.initialized result.ready
      | cons command later =>
        obtain ⟨frame, d, opcode, stepped, waiting, same⟩ := waiting.next completes
        rw [stepped, play_queued waiting.empty, ← same]
        exact (ih waiting routine).queued opcode
    · rename_i other
      rw [waiting.step_other now other]
      exact ih waiting routine

theorem Calm.start (calm : c.Calm) (idle : c.initStep = .idle) :
    ∃ (frame : List UInt8) (d : Core), Frame.opcode frame = Command.reset.opcode ∧
      c.stepInit [] = { d with outbox := [frame] } ∧
      d.Awaiting .reset (bringUp c.planeMode).tail ∧ d.clearPairing = c.clearPairing := by
  have stage : c.stage.next (!c.planeMode) = .init .reset := by
    rw [Core.stage, idle]
    rfl
  have queues : (c.stage.next (!c.planeMode)).command? = some .reset := by rw [stage]; rfl
  obtain ⟨d, advances, stands, awaits, frame, opcode, queued⟩ := calm.stepInit_queues queues []
  have same : d.planeMode = c.planeMode ∧ d.clearPairing = c.clearPairing := by
    cases advances
    exact ⟨rfl, rfl⟩
  refine ⟨frame, d, opcode, queued, ⟨calm.advances advances, awaits, ?_⟩, same.2⟩
  rw [stands, stage, same.1]
  exact Stage.ahead_bringUp c.planeMode

/-- A new initialisation queues the reset of the controller, and waits for its completion. -/
theorem Sized.beginInit (sized : c.Sized) :
    ∃ (frame : List UInt8) (d : Core), Frame.opcode frame = Command.reset.opcode ∧
      c.beginInit = { d with outbox := [frame] } ∧
      d.Awaiting .reset (bringUp c.planeMode).tail ∧ d.clearPairing = c.clearPairing :=
  Calm.start ⟨⟨rfl, rfl, rfl, rfl, rfl, rfl⟩, ⟨sized.name, sized.address⟩, rfl, rfl, rfl⟩ rfl

/-- Whatever is completed and whenever: the commands of an initialisation are queued one after the
other, each when the one before it is completed, and the initialisation is over when the last one is
completed. -/
theorem beginInit_progress (sized : c.Sized) {inputs : List Input}
    (routine : ∀ input ∈ inputs, input.Routine) :
    Progress (bringUp c.planeMode) c.clearPairing (unacknowledged (bringUp c.planeMode) inputs)
      (c.beginInit.play inputs) := by
  obtain ⟨frame, d, opcode, begun, waiting, same⟩ := sized.beginInit
  rw [begun, play_queued waiting.empty, ← same]
  exact (waiting.play routine).queued opcode

/-- A device with a client leaves plane mode and forgets its hosts. Two of its commands are
completed, the first one twice and after another one. -/
theorem beginInit_progress_cleared :
    let c := (Input.session ++ [Input.setPlaneMode false, .resetPairings]).foldl step
      (.create .standard (.stepping 0 1) "card" [1, 2, 3, 4, 5, 6] true)
    let inputs := [Input.completed .setTxPower, .completed .reset, .tick, .completed .reset,
      .completed .writeConfig]
    (c.Sized ∧ ∀ input ∈ inputs, input.Routine) ∧
      Progress (bringUp false) true ((bringUp false).drop 2) (c.beginInit.play inputs) := by
  intro c inputs
  have sized : c.Sized := ⟨by decide +kernel, by decide +kernel⟩
  have routine : ∀ input ∈ inputs, input.Routine := by
    simp only [inputs, List.forall_mem_cons]
    exact ⟨rfl, rfl, trivial, rfl, rfl, nofun⟩
  have progress := beginInit_progress sized routine
  have planeMode : c.planeMode = false := by decide +kernel
  have clearing : c.clearPairing = true := by decide +kernel
  have left : unacknowledged (bringUp false) inputs = (bringUp false).drop 2 := by decide +kernel
  rw [planeMode, clearing, left] at progress
  exact ⟨⟨sized, routine⟩, progress⟩

/-- A name is cut to its capacity when it is set, and the address stays as it was given. -/
theorem Sized.step (sized : c.Sized) (input : Input) : (c.step input).Sized := by
  have name : (c.step input).name = c.nameAfter input :=
    congrArg Profile.name (c.step_profile input)
  have address : (c.step input).address = c.address :=
    congrArg Profile.address (c.step_profile input)
  refine ⟨?_, address ▸ sized.address⟩
  rw [name]
  unfold nameAfter
  split
  · exact Advertising.fittingBytes_length _ _
  · exact sized.name

end Core

theorem Run.sized {settings : Settings} {random : RandomSource} {name : String}
    {address : List UInt8} {planeMode : Bool} {past : List (Core × Input)} {c : Core}
    (run : Run (.create settings random name address planeMode) past c)
    (six : address.length = 6) : c.Sized := by
  induction run with
  | start => exact ⟨Advertising.fittingBytes_length _ _, six⟩
  | next run input ih => exact ih.step input

end Controller

end CardLink
