import CardLink.Proofs.Controller.Failure
import CardLink.Proofs.Controller.Fitting
import CardLink.Proofs.Controller.Posting
import CardLink.Proofs.Controller.Startup

namespace CardLink.Controller

namespace Link

/-- What an operation hands to the core, if anything. -/
def input? (l : Link) : Operation → Option Input
  | .init => some .beginInit
  | .processEvent => l.platform.queue.head?.bind Input.ofEvent?
  | .packet raw => Input.ofRaw? raw
  | .tick => some .tick
  | .send data => some (.sendMessage data)
  | .poll => some .poll
  | .enableAdvertising on => some (.enableAdvertising on)
  | .resetPairings => some .resetPairings
  | .respond answer => some (.respond answer)
  | .setDeviceName name => some (.setDeviceName name)
  | .setPlaneMode on => some (.setPlaneMode on)
  | .nextPairingMessage => some .nextPairingMessage
  | .surround _ => none

/-- The core of an operation before anything is written. -/
def stepped (l : Link) (operation : Operation) : Core :=
  (l.input? operation).elim l.core l.core.step

/-- The platform of an operation before anything is written. -/
def met (l : Link) : Operation → Platform
  | .processEvent => { l.platform with queue := l.platform.queue.tail }
  | .surround platform => platform
  | _ => l.platform

/-- The command that an operation has the link write. -/
def post? (l : Link) (operation : Operation) : Option Post :=
  (l.input? operation).bind l.core.post?

variable {l : Link} {size period : Nat}

theorem carried_of_raw {raw : List UInt8} {input : Input}
    (given : Input.ofRaw? raw = some input) : Core.Carried input := by
  unfold Input.ofRaw? at given
  split at given
  · cases given
  · rename_i packet parsed
    cases given
    unfold EventPacket.parse at parsed
    split at parsed
    · split at parsed
      · rename_i type code length params sound
        cases parsed
        have most := length.toNat_lt
        show params.length ≤ 255
        omega
      · cases parsed
    · cases parsed

theorem input?_carried {operation : Operation} {input : Input}
    (given : l.input? operation = some input) : Core.Carried input := by
  cases operation with
  | packet raw => exact carried_of_raw given
  | processEvent =>
    obtain ⟨event, -, taken⟩ := Option.bind_eq_some_iff.mp given
    cases event with
    | hci raw => exact carried_of_raw taken
    | tick =>
      cases taken
      trivial
    | usb | other => cases taken
  | surround => cases given
  | _ =>
    cases given
    trivial

theorem stepped_post (snug : l.core.Snug) (empty : l.core.outbox = []) (operation : Operation) :
    (∀ post ∈ l.post? operation, post.Fits) ∧
      (l.stepped operation).outbox = ((l.post? operation).map Post.frame).toList := by
  unfold post? stepped
  cases given : l.input? operation with
  | none => exact ⟨Core.fits_none, empty⟩
  | some input =>
    have fit := Core.post?_fit snug (input?_carried given)
    exact ⟨fit, Core.step_post empty fit⟩

/-- The core takes a packet that has the form of one: no chunk length is too short for it. -/
theorem handlePacket?_ok (reach : Requester.Reach size period l.requester) (positive : 0 < size)
    (room : 6 ≤ l.core.endpoint.layout.ceiling) (raw : List UInt8) : ∃ requester,
      l.handlePacket? raw = .ok { l with
        requester := requester, core := (Input.ofRaw? raw).elim l.core l.core.step }.flush := by
  obtain ⟨requester, -, handled⟩ := handlePacket?_eq reach positive raw
  refine ⟨requester, ?_⟩
  rw [handled]
  unfold Input.ofRaw?
  cases EventPacket.parse raw with
  | error => rfl
  | ok packet =>
    have unfaulted : l.core.mtuFault packet = false := by
      rw [Core.mtuFault, decide_eq_false (Nat.not_lt.mpr room), Bool.and_false]
    have taken : l.core.onPacket? packet = .ok (l.core.onPacket packet) :=
      if_neg (Bool.eq_false_iff.mp unfaulted)
    simp only [taken]
    rfl

/-- Every operation hands the core its input and has what is then queued written. -/
theorem operate?_ok (reach : Requester.Reach size period l.requester) (positive : 0 < size)
    (room : 6 ≤ l.core.endpoint.layout.ceiling) (empty : l.core.outbox = [])
    (operation : Operation) : ∃ requester, l.operate? operation =
      .ok (flush ⟨l.met operation, requester, l.stepped operation⟩) := by
  have unwritten {l : Link} (empty : l.core.outbox = []) :
      (.ok l : Except Fault Link) = .ok l.flush := congrArg Except.ok (flush_empty empty).symm
  cases operation with
  | packet raw => exact handlePacket?_ok reach positive room raw
  | processEvent =>
    unfold operate? processEvent? stepped input? met
    match queued : l.platform.queue with
    | [] =>
      have drained : { l.platform with queue := [] } = l.platform := by rw [← queued]
      refine ⟨l.requester, ?_⟩
      simp only [List.tail_nil, drained]
      exact unwritten empty
    | .hci raw :: rest =>
      obtain ⟨requester, handled⟩ := handlePacket?_ok (l := { l with
        platform := { l.platform with queue := rest } }) reach positive room raw
      refine ⟨requester, ?_⟩
      simp only [handled]
      rfl
    | .tick :: rest | .usb _ :: rest | .other :: rest => exact ⟨l.requester, rfl⟩
  | poll | setDeviceName | setPlaneMode | nextPairingMessage | surround =>
    exact ⟨l.requester, unwritten empty⟩
  | _ => exact ⟨l.requester, rfl⟩

/-- A queued frame is written once, whatever comes of it. -/
theorem flush_queued {frame? : Option (List UInt8)} (queued : l.core.outbox = frame?.toList) :
    l.flush.core.outbox = [] ∧ l.flush.platform = frame?.elim l.platform fun frame =>
      (writeFrame l.core.settings.controllerRetry frame 0 l.platform).2 := by
  cases frame? with
  | none =>
    rw [flush_empty queued]
    exact ⟨queued, rfl⟩
  | some frame =>
    have queued : l.core.outbox = [frame] := queued
    have once : l.flush = l.writeNext := by
      rw [flush, queued]
      rfl
    rw [once]
    simp only [writeNext, Core.nextCommand, queued, Option.elim_some]
    generalize writeFrame l.core.settings.controllerRetry frame 0 l.platform = written
    obtain ⟨result, platform⟩ := written
    cases result with
    | ok => exact ⟨rfl, rfl⟩
    | error =>
      refine ⟨?_, rfl⟩
      dsimp only
      unfold Core.commandDropped
      split <;> rfl

/-- What the link relies on between operations. -/
structure Able (settings : Settings) (l : Link) : Prop where
  configured : l.core.settings = settings
  snug : l.core.Snug
  roomy : l.core.exchange.Roomy
  reach : Requester.Reach SlotPool.standardSize (Settings.microseconds settings.tick) l.requester

section

variable {settings : Settings} {random : RandomSource} {name : String} {serial : List UInt8}
  {planeMode : Bool} {platform : Platform} {initial : Link} {past : List (Core × Input)}

theorem Run.able (valid : settings.validate = .ok ())
    (created : Link.create? settings random name serial planeMode platform = .ok initial)
    (run : Run initial past l) : l.Able settings := by
  obtain ⟨core, reach⟩ := create?_core created
  obtain ⟨went, still⟩ := run.core reach (by decide)
  rw [core] at went
  exact ⟨went.settings_eq, went.snug rfl, went.roomy valid, still⟩

/-- Only the command of the operation is written, and as a whole. -/
theorem Able.operate (able : l.Able settings) (empty : l.core.outbox = [])
    (operation : Operation) : ∃ after, l.operate? operation = .ok after ∧
      after.core.outbox = [] ∧
      after.platform = (l.post? operation).elim (l.met operation) fun post =>
        (writeFrame settings.controllerRetry post.frame 0 (l.met operation)).2 := by
  obtain ⟨requester, done⟩ := operate?_ok able.reach (by decide) able.roomy.ceiling empty operation
  obtain ⟨-, queued⟩ := stepped_post able.snug empty operation
  have kept : (l.stepped operation).settings = settings := by
    unfold stepped
    cases l.input? operation with
    | none => exact able.configured
    | some input => exact (Core.step_shift l.core input).settings.trans able.configured
  obtain ⟨drained, written⟩ := flush_queued (l := ⟨l.met operation, requester, l.stepped operation⟩)
    queued
  refine ⟨_, done, drained, ?_⟩
  rw [written, kept]
  cases l.post? operation <;> rfl

theorem Run.outbox_empty (valid : settings.validate = .ok ())
    (created : Link.create? settings random name serial planeMode platform = .ok initial)
    (run : Run initial past l) : l.core.outbox = [] := by
  induction run with
  | start =>
    rw [(create?_core created).1]
    rfl
  | next run operation done ih =>
    obtain ⟨after, done', drained, -⟩ := (run.able valid created).operate ih operation
    cases done.symm.trans done'
    exact drained

end

end Link

/-- Each operation has at most one command. Nothing of it is left out, it is queued as a whole, and
it is written before the operation is over: the outbox is empty again. -/
theorem commands_written {settings : Settings} (valid : settings.validate = .ok ())
    (random : RandomSource) (name : String) (serial : List UInt8) (planeMode : Bool)
    (platform : Platform) :
    ∃ initial, Link.create? settings random name serial planeMode platform = .ok initial ∧
      ∀ {past : List (Core × Input)} {l : Link}, Link.Run initial past l →
        l.core.outbox = [] ∧ ∀ operation,
          (∀ post ∈ l.post? operation, post.Fits ∧
            Frame.build post.command.opcode post.params = .ok post.frame) ∧
          (l.stepped operation).outbox = ((l.post? operation).map Post.frame).toList ∧
          ∃ after, l.operate? operation = .ok after ∧ after.core.outbox = [] ∧
            after.platform = (l.post? operation).elim (l.met operation) fun post =>
              (writeFrame settings.controllerRetry post.frame 0 (l.met operation)).2 := by
  have created := Link.create?_valid valid random name serial planeMode platform
  refine ⟨_, created, fun {past l} run => ?_⟩
  have able := run.able valid created
  have empty := run.outbox_empty valid created
  refine ⟨empty, fun operation => ?_⟩
  obtain ⟨fit, queued⟩ := Link.stepped_post able.snug empty operation
  exact ⟨fun post member => ⟨fit post member, (fit post member).build⟩, queued,
    able.operate empty operation⟩

/-- A client asks for the permit to write as much as an event can carry: the response is as long as
a command can be. -/
theorem commands_written_longest :
    let random := RandomSource.stepping 0 1
    let connected := [0x04, 0x3E, 0x13, 0x01, 0x00, 0x01, 0x08] ++ List.replicate 15 0x00
    let asked := [0x04, 0xFF, 0xFF, 0x13, 0x0C, 0x01, 0x08, 0x61, 0x00, 0xF8] ++
      List.replicate 248 0xA5
    Settings.standard.validate = .ok () ∧
    ∃ initial l past post, Link.create? .standard random "card" [1, 2, 3, 4, 5, 6, 7, 8] true {} =
        .ok initial ∧ initial.operate? (.packet connected) = .ok l ∧ Link.Run initial past l ∧
      l.post? (.packet asked) = some post ∧ post.params.length = 255 ∧ post.Fits ∧
      (l.stepped (.packet asked)).outbox = [post.frame] ∧
      ∃ after, l.operate? (.packet asked) = .ok after ∧ after.core.outbox = [] ∧
        after.platform =
          (writeFrame Settings.standard.controllerRetry post.frame 0 l.platform).2 := by
  intro random connected asked
  have valid : Settings.standard.validate = .ok () := rfl
  obtain ⟨initial, created, written⟩ :=
    commands_written valid random "card" [1, 2, 3, 4, 5, 6, 7, 8] true {}
  let fresh : Link :=
    { requester := { tick := Settings.microseconds Settings.standard.tick }
      core := .create .standard random "card"
        (Identity.staticAddress [1, 2, 3, 4, 5, 6, 7, 8]) true }
  have same : fresh = initial := Except.ok.inj created
  have length : (fresh.operate? (.packet connected)).toOption.bind (fun l =>
      (l.post? (.packet asked)).map fun post => post.params.length) = some 255 := by
    decide +kernel
  obtain ⟨-, operate⟩ := written .start
  obtain ⟨-, -, l, operated, -⟩ := operate (.packet connected)
  simp only [same, operated, Except.toOption, Option.bind_some] at length
  obtain ⟨post, asks, length⟩ := Option.map_eq_some_iff.mp length
  have run : Link.Run initial _ l := .next .start (.packet connected) operated
  obtain ⟨fit, queued, after, done, drained, platform⟩ := (written run).2 (.packet asked)
  rw [asks] at fit queued platform
  exact ⟨valid, initial, l, _, post, created, operated, run, asks, length, (fit post rfl).1, queued,
    after, done, drained, platform⟩

end CardLink.Controller
