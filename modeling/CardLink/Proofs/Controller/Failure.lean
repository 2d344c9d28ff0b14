import CardLink.Proofs.Controller.Initialization
import CardLink.Proofs.Controller.Operations
import CardLink.Proofs.Controller.Readiness

namespace CardLink.Controller

/-- What the steps of both sequences send, and what an initialisation may send at its end. -/
def stepCommands : List Command := .clearSecurityDb :: bringUp false

/-- Where both sequences stand, and what handles they have been given. -/
structure Place where
  phase : Phase
  initStep : InitStep
  advStep : AdvStep
  awaited : Option Command
  ready : Bool
  advWanted : Bool
  handles : Handles
  deriving DecidableEq, Repr

/-- A frame that no step sends: a notification, or a command that is none of theirs. -/
def Place.Aside (place : Place) (frame : List UInt8) : Prop :=
  ∃ command params, Frame.build (Command.opcode command) params = .ok frame ∧
    (command ∉ stepCommands ∨ command = .updateCharValue ∧
      ∃ value, params = Core.updateParams place.handles.service place.handles.notify value)

namespace Core

def place (c : Core) : Place where
  phase := c.phase
  initStep := c.initStep
  advStep := c.advStep
  awaited := c.awaited
  ready := c.ready
  advWanted := c.advWanted
  handles := c.handles

/-- Both sequences stand where they stood, and nothing of theirs has been queued. -/
structure Unmoved (c after : Core) : Prop where
  place : after.place = c.place
  queued : ∃ news, after.outbox <:+ c.outbox ++ news ∧ ∀ frame ∈ news, c.place.Aside frame

variable {c d after : Core} {input : Input}

theorem Unmoved.of_same (place : after.place = c.place) (outbox : after.outbox = c.outbox) :
    c.Unmoved after :=
  ⟨place, [], ⟨[], outbox.trans (List.append_nil _).symm⟩, nofun⟩

theorem Unmoved.refl (c : Core) : c.Unmoved c := .of_same rfl rfl

theorem Unmoved.trans (first : c.Unmoved d) (second : d.Unmoved after) : c.Unmoved after := by
  obtain ⟨news, queued, aside⟩ := first.queued
  obtain ⟨more, later, apart⟩ := second.queued
  refine ⟨second.place.trans first.place, news ++ more, ?_, fun frame member => ?_⟩
  · rw [← List.append_assoc]
    exact later.trans (List.suffix_append_self_iff.mpr queued)
  · rcases List.mem_append.mp member with old | new
    · exact aside frame old
    · exact first.place ▸ apart frame new

/-- A state may differ in anything that neither sequence reads. -/
theorem Unmoved.from (unmoved : d.Unmoved after) (place : d.place = c.place)
    (outbox : d.outbox = c.outbox) : c.Unmoved after := .trans (.of_same place outbox) unmoved

theorem send_unmoved (c : Core) {command : Command} {params : List UInt8}
    (aside : command ∉ stepCommands ∨ command = .updateCharValue ∧
      ∃ value, params = updateParams c.handles.service c.handles.notify value) :
    c.Unmoved (c.send command params) := by
  unfold send
  split
  · exact .refl c
  · rename_i frame built
    split
    · refine ⟨rfl, [frame], List.suffix_rfl, fun other member => ?_⟩
      exact List.mem_singleton.mp member ▸ ⟨command, params, built, aside⟩
    · exact .refl c

theorem notify_unmoved (c : Core) (chunk : List UInt8) (ofMessage : Bool) :
    c.Unmoved (c.notify chunk ofMessage) := by
  unfold notify updateCharValue
  split
  · exact .from (send_unmoved _ (.inr ⟨rfl, chunk, rfl⟩)) rfl rfl
  · exact send_unmoved c (.inr ⟨rfl, chunk, rfl⟩)

theorem queueNotify_unmoved (c : Core) (chunk : List UInt8) (ofMessage : Bool) :
    c.Unmoved (c.queueNotify chunk ofMessage) := by
  unfold queueNotify
  split
  · exact .of_same rfl rfl
  · exact notify_unmoved c chunk ofMessage

theorem sendMessage_unmoved (c : Core) (data : List UInt8) : c.Unmoved (c.sendMessage data).2 := by
  unfold sendMessage
  split
  · split
    · exact .of_same rfl rfl
    · split
      · exact .of_same rfl rfl
      · split
        · exact .of_same rfl rfl
        · exact .from (queueNotify_unmoved _ _ _) rfl rfl
  · exact .refl c

theorem respond_unmoved (c : Core) (answer : PairingAnswer) : c.Unmoved (c.respond answer) := by
  simp only [respond]
  split
  · exact .from (send_unmoved _ (.inl (by decide))) rfl rfl
  · exact .from (send_unmoved _ (.inl (by decide))) rfl rfl
  · exact .of_same rfl rfl

theorem requestInterval_unmoved (c : Core) : c.Unmoved c.requestInterval := by
  simp only [requestInterval]
  split
  · exact .from (send_unmoved _ (.inl (by decide))) rfl rfl
  · exact .refl c

theorem finishMessage_unmoved (c : Core) : c.Unmoved c.finishMessage := by
  simp only [finishMessage]
  split
  · exact .of_same rfl rfl
  · exact .from (requestInterval_unmoved _) rfl rfl

theorem onNotifyComplete_unmoved (c : Core) : c.Unmoved c.onNotifyComplete := by
  simp only [onNotifyComplete]
  split
  · split
    · split
      · exact .from (notify_unmoved _ _ _) rfl rfl
      · exact .from (finishMessage_unmoved _) rfl rfl
    · exact .from (finishMessage_unmoved _) rfl rfl
  · exact .refl c

theorem onWriteAck_unmoved (c : Core) : c.Unmoved c.onWriteAck := by
  simp only [onWriteAck]
  split
  · split
    · exact .from (notify_unmoved _ _ _) rfl rfl
    · exact .of_same rfl rfl
  · exact .refl c

theorem feed_unmoved (c : Core) (chunk : List UInt8) : c.Unmoved (c.feed chunk) := by
  unfold feed
  obtain ⟨answer, endpoint⟩ := c.endpoint.receive chunk
  match answer with
  | .ok (.reply reply) => exact .from (queueNotify_unmoved _ _ _) rfl rfl
  | .ok (.channelRequest channel) => exact .from (queueNotify_unmoved _ _ _) rfl rfl
  | .ok .reset =>
    dsimp only
    split <;> exact .of_same rfl rfl
  | .ok .needMore | .ok (.complete _) | .ok .deferred | .ok .dropped | .ok .ignored
  | .error _ => exact .of_same rfl rfl

theorem onAttributeModified_unmoved (c : Core) (data : List UInt8) :
    c.Unmoved (c.onAttributeModified data) := by
  simp only [onAttributeModified, onSubscription]
  split
  · exact .refl c
  · split
    · split
      · exact .from (send_unmoved _ (.inl (by decide))) rfl rfl
      · exact .of_same rfl rfl
    · split
      · exact feed_unmoved c _
      · exact .refl c

theorem onWritePermit_unmoved (c : Core) (data : List UInt8) :
    c.Unmoved (c.onWritePermit data) := by
  simp only [onWritePermit]
  split
  · exact .refl c
  · refine .trans ?_ (send_unmoved _ (.inl (by decide)))
    split
    · exact .from (feed_unmoved _ _) rfl rfl
    · exact .of_same rfl rfl

theorem onConnected_unmoved (c : Core) (params : List UInt8) (position : Nat) :
    c.Unmoved (c.onConnected params position) := by
  unfold onConnected resetMtu resetTransfer
  exact .of_same rfl rfl

theorem onLeMeta_unmoved (c : Core) (params : List UInt8) : c.Unmoved (c.onLeMeta params) := by
  rcases c.onLeMeta_cases params with ⟨connection, same⟩ | ⟨position, same⟩
  · rw [same]
    exact .of_same rfl rfl
  · rw [same]
    exact onConnected_unmoved c params position

theorem onVendor_unmoved (c : Core) {packet : EventPacket} (timely : ¬c.ProcedureTimedOut packet) :
    c.Unmoved (c.onVendor packet) := by
  simp only [onVendor]
  split
  · exact .refl c
  · rename_i own
    rw [not_or, Nat.not_lt, Decidable.not_not] at own
    split
    · exact .of_same rfl rfl
    · exact .of_same rfl rfl
    · exact .of_same rfl rfl
    · exact onAttributeModified_unmoved c _
    · exact .of_same rfl rfl
    · exact onWritePermit_unmoved c _
    · exact send_unmoved c (.inl (by decide))
    · rename_i event
      exact absurd ⟨own.1, own.2, event⟩ timely
    all_goals exact .refl c

/-- After a failure completions are passed over. -/
theorem onCommandComplete_failed (failed : c.phase = .failed) (packet : EventPacket) :
    c.onCommandComplete packet = c := by
  unfold onCommandComplete
  split
  · rfl
  · simp only [failed]

theorem onPacket_unmoved {packet : EventPacket}
    (passed : packet.kind = .commandComplete → c.onCommandComplete packet = c)
    (continues : ¬c.Restarts (.packet packet)) (connected : ¬(Input.packet packet).Disconnects) :
    c.Unmoved (c.onPacket packet) := by
  simp only [Restarts] at continues
  simp only [onPacket]
  cases kind : packet.kind with
  | commandComplete =>
    simp only [passed kind]
    exact .refl c
  | commandStatus => exact .refl c
  | leMeta => exact onLeMeta_unmoved c _
  | hardwareError =>
    rw [kind] at continues
    exact absurd trivial continues
  | asynchronous =>
    rw [kind, not_or] at continues
    dsimp only
    -- A disconnection either starts the initialisation or is one that sets advertising up.
    split
    · rename_i code
      exact absurd ⟨code, fun passed => continues.1 ⟨code, passed⟩⟩ connected
    · split
      · unfold onEncryptionChange
        split <;> exact .of_same rfl rfl
      · split
        · rename_i code
          exact onVendor_unmoved c fun timedOut => continues.2 ⟨code, timedOut⟩
        · exact .refl c

/-- Of everything that goes on, only a lost client moves a controller that has failed. -/
theorem step_unmoved (failed : c.phase = .failed) (unready : c.ready = false)
    (continues : ¬c.Restarts input) (connected : ¬input.Disconnects) :
    c.Unmoved (c.step input) := by
  cases input with
  | beginInit => exact absurd trivial continues
  | packet packet =>
    exact onPacket_unmoved (fun _ => onCommandComplete_failed failed packet) continues connected
  | tick =>
    simp only [step, onTick]
    split <;> exact .of_same rfl rfl
  | nextCommand =>
    simp only [step, nextCommand]
    split
    · exact .refl c
    · rename_i frame rest queued
      exact ⟨rfl, [], by rw [queued, List.append_nil]; exact List.suffix_cons frame rest,
        List.forall_mem_nil _⟩
  | commandDropped =>
    simp only [step, commandDropped, failed]
    exact .refl c
  | poll | setDeviceName | setPlaneMode | nextPairingMessage => exact .of_same rfl rfl
  | sendMessage data => exact sendMessage_unmoved c data
  | enableAdvertising on =>
    simp only [step, enableAdvertising, unready]
    exact .refl c
  | resetPairings =>
    simp only [step, resetPairings, unready]
    exact .refl c
  | respond answer => exact respond_unmoved c answer

/-- A lost client sets advertising up. -/
theorem step_disconnected (continues : ¬c.Restarts input) (disconnects : input.Disconnects) :
    (c.step input).phase = .configuringAdvertising ∨ (c.step input).phase = .ready := by
  have move := c.step_move input
  generalize placed : (c.step input).standing = standing at move
  have phase : (c.step input).phase = standing.phase := congrArg Standing.phase placed
  rw [phase]
  cases move with
  | disconnected _ _ up => exact up
  | restarted restarts => exact absurd restarts continues
  | kept _ connected | requested _ _ connected | switched _ connected | renamed _ connected
  | dropped _ connected | advanced _ _ connected | initialized _ connected
  | advertised _ connected => exact absurd disconnects connected

end Core

/-- In every state up to the end of a run the sequences stand where they stood when the one failed,
not ready, and nothing of theirs has been queued. -/
def StaysFailed (c : Core) (later : List (Core × Input)) (after : Core) : Prop :=
  ∀ d ∈ later.map Prod.fst ++ [after], d.phase = .failed ∧ d.ready = false ∧ c.Unmoved d

variable {c after : Core} {later : List (Core × Input)}

theorem staysFailed_append {d : Core} {input : Input} :
    StaysFailed c (later ++ [(d, input)]) after ↔ StaysFailed c later d ∧
      after.phase = .failed ∧ after.ready = false ∧ c.Unmoved after := by
  simp only [StaysFailed, List.map_append, List.map_cons, List.map_nil, List.forall_mem_append,
    List.forall_mem_singleton]

theorem Core.Unmoved.stays (unmoved : c.Unmoved after) (failed : c.phase = .failed)
    (unready : c.ready = false) :
    after.phase = .failed ∧ after.ready = false ∧ c.Unmoved after :=
  ⟨(congrArg Place.phase unmoved.place).trans failed,
    (congrArg Place.ready unmoved.place).trans unready, unmoved⟩

/-- From a failure on, as long as the initialisation is not started again. -/
theorem Run.staysFailed_iff (run : Run c later after) (failed : c.phase = .failed)
    (unready : c.ready = false) (continues : ∀ e ∈ later, ¬e.1.Restarts e.2) :
    StaysFailed c later after ↔ ∀ e ∈ later, ¬e.2.Disconnects := by
  induction run with
  | start =>
    refine iff_of_true (fun d member => ?_) (List.forall_mem_nil _)
    obtain rfl : d = c := List.mem_singleton.mp member
    exact (Core.Unmoved.refl d).stays failed unready
  | @next later d run input ih =>
    rw [List.forall_mem_append, List.forall_mem_singleton] at continues ⊢
    rw [staysFailed_append, ih continues.1]
    -- The run so far was quiet just if it stayed failed; the last input is one step more.
    refine and_congr_right fun connected => ⟨fun stays disconnects => ?_, fun kept => ?_⟩
    · rcases Core.step_disconnected continues.2 disconnects with phase | phase
      all_goals exact absurd (phase.symm.trans stays.1) (by decide)
    · have stayed := (ih continues.1).mpr connected d
        (List.mem_append_right _ List.mem_cons_self)
      have unmoved := stayed.2.2.trans
        (Core.step_unmoved stayed.1 stayed.2.1 continues.2 kept)
      exact unmoved.stays failed unready

theorem Run.unready {settings : Settings} {random : RandomSource} {name : String}
    {address : List UInt8} {planeMode : Bool} {past : List (Core × Input)}
    (run : Run (.create settings random name address planeMode) past c)
    (failed : c.phase = .failed) : c.ready = false := by
  refine Bool.eq_false_iff.mpr fun ready => ?_
  have failed : c.standing.phase = .failed := failed
  rcases (run.sound.whole ready).2 with phase | phase
  all_goals exact absurd (failed.symm.trans phase) (by decide)

theorem Link.create?_core {settings : Settings} {random : RandomSource} {name : String}
    {serial : List UInt8} {planeMode : Bool} {platform : Platform} {l : Link}
    (created : Link.create? settings random name serial planeMode platform = .ok l) :
    l.core = .create settings random name (Identity.staticAddress serial) planeMode ∧
      Requester.Reach SlotPool.standardSize (Settings.microseconds settings.tick) l.requester := by
  unfold Link.create? Core.create? at created
  split at created
  · cases created
  · rename_i made
    split at made
    · cases made
    · cases made
      cases created
      exact ⟨rfl, .start⟩

/-- A controller whose bring-up has failed stays as it is until the initialisation is started
again, by itself or on a link, exactly when no client is lost: a disconnection sets advertising up
in any phase. -/
theorem failure_lasts_iff {settings : Settings} {random : RandomSource} {name : String}
    {planeMode : Bool} :
    (∀ {address : List UInt8} {past : List (Core × Input)} {c : Core},
      Run (.create settings random name address planeMode) past c → c.phase = .failed →
      ∀ {later : List (Core × Input)} {after : Core}, Run c later after →
        (∀ e ∈ later, ¬e.1.Restarts e.2) →
        (StaysFailed c later after ↔ ∀ e ∈ later, ¬e.2.Disconnects)) ∧
    ∀ {serial : List UInt8} {platform : Platform} {initial l : Link}
      {past : List (Core × Input)},
      Link.create? settings random name serial planeMode platform = .ok initial →
      Link.Run initial past l → l.core.phase = .failed →
      ∀ {later : List (Core × Input)} {after : Link}, Link.Run l later after →
        (∀ e ∈ later, ¬e.1.Restarts e.2) →
        (StaysFailed l.core later after.core ↔ ∀ e ∈ later, ¬e.2.Disconnects) := by
  constructor
  · intro address past c run failed later after next continues
    exact next.staysFailed_iff failed (run.unready failed) continues
  · intro serial platform initial l past created run failed later after next continues
    obtain ⟨core, reach⟩ := Link.create?_core created
    obtain ⟨went, still⟩ := run.core reach (by decide)
    rw [core] at went
    exact (next.core still (by decide)).1.staysFailed_iff failed (went.unready failed) continues

/-- A client connects after the failure and gets a message. -/
theorem failure_lasts_iff_connected :
    let settings := { Settings.standard with controllerRetry := .bounded 0 1000 }
    let random := RandomSource.stepping 0 1
    let platform : Platform := { outcomes := [some .insufficientResources] }
    let raw := [0x04, 0x3E, 0x13, 0x01, 0x00, 0x01, 0x08] ++ List.replicate 15 0x00
    let connected : Input := .packet ⟨raw⟩
    let sent : Input := .sendMessage [0x90, 0x00]
    let initial := Core.create settings random "card" [1, 2, 3, 4, 5, 6] true
    let c := (initial.step .beginInit).step .commandDropped
    let later := [(c, connected), (c.step connected, sent)]
    let after := (c.step connected).step sent
    (c.phase = .failed ∧ after.outbox.length = 1 ∧ StaysFailed c later after) ∧
    ∃ initial l, Link.create? settings random "card" [1, 2, 3, 4, 5, 6, 7, 8] true platform =
        .ok initial ∧ initial.operate? .init = .ok l ∧ l.core.phase = .failed ∧
      ∃ linked later, l.operate? (.packet raw) = .ok linked ∧
        Link.Run l later (linked.send [0x90, 0x00]).2 ∧
        StaysFailed l.core later (linked.send [0x90, 0x00]).2.core := by
  intro settings random platform raw connected sent initial c later after
  have run : Run initial _ c := (Run.start.next .beginInit).next .commandDropped
  have failed : c.phase = .failed := by decide +kernel
  have next : Run c later after := (Run.start.next connected).next sent
  have kept : ¬connected.Disconnects := fun lost => absurd lost.1 (by decide)
  have continues (d : Core) : ¬d.Restarts connected := by
    have kind : EventPacket.kind ⟨raw⟩ = .leMeta 0x01 := by decide +kernel
    simp only [connected, Core.Restarts, kind, not_false_eq_true]
  have given : ∀ e ∈ later, ¬e.1.Restarts e.2 ∧ ¬e.2.Disconnects := by
    simp only [later, List.forall_mem_cons]
    exact ⟨⟨continues c, kept⟩, ⟨id, id⟩, List.forall_mem_nil _⟩
  have stays := (failure_lasts_iff.1 run failed next fun e member => (given e member).1).mpr
    fun e member => (given e member).2
  refine ⟨⟨failed, by decide +kernel, stays⟩, ?_⟩
  let fresh : Link :=
    { platform := platform
      requester := { tick := Settings.microseconds settings.tick }
      core := .create settings random "card"
        (Identity.staticAddress [1, 2, 3, 4, 5, 6, 7, 8]) true }
  let l := fresh.init
  have created : Link.create? settings random "card" [1, 2, 3, 4, 5, 6, 7, 8] true platform =
      .ok fresh := rfl
  have begun : Link.Run fresh _ l := .next .start .init rfl
  have failed : l.core.phase = .failed := by decide +kernel
  have taken : (l.operate? (.packet raw)).isOk = true := by decide +kernel
  cases handled : l.operate? (.packet raw) with
  | error =>
    rw [handled] at taken
    cases taken
  | ok linked =>
    have next : Link.Run l _ (linked.send [0x90, 0x00]).2 :=
      (Link.Run.start.next (.packet raw) handled).next (.send [0x90, 0x00]) rfl
    have given : ∀ e ∈ [] ++ l.inputs (.packet raw) ++ linked.inputs (.send [0x90, 0x00]),
        ¬e.1.Restarts e.2 ∧ ¬e.2.Disconnects := by
      simp only [List.forall_mem_append]
      exact ⟨⟨List.forall_mem_nil _, Link.forall_performing (fun _ => ⟨id, id⟩)
          (fun _ => ⟨id, id⟩) l ⟨continues l.core, kept⟩⟩,
        Link.forall_performing (fun _ => ⟨id, id⟩) (fun _ => ⟨id, id⟩) linked ⟨id, id⟩⟩
    have stays := (failure_lasts_iff.2 created begun failed next
      fun e member => (given e member).1).mpr fun e member => (given e member).2
    exact ⟨fresh, l, created, rfl, failed, linked, _, handled, next, stays⟩

/-- A client is lost while the initialisation has failed on its first command: advertising is set
up, and a command for it is queued. -/
theorem advertises_after_failure :
    let initial := Core.create .standard (.stepping 0 1) "card" [1, 2, 3, 4, 5, 6] false
    let c := (initial.step .beginInit).step .commandDropped
    let lost : Input := .packet ⟨[0x04, 0x05, 0x04, 0x00, 0x01, 0x00, 0x13]⟩
    (∃ past, Run initial past c) ∧ c.phase = .failed ∧ ¬c.Restarts lost ∧
      (c.step lost).phase = .configuringAdvertising ∧
      (c.step lost).outbox.map Frame.opcode = [Command.setDiscoverable.opcode] := by
  intro initial c lost
  have run : Run initial _ c := (Run.start.next .beginInit).next .commandDropped
  refine ⟨⟨_, run⟩, by decide +kernel, ?_, by decide +kernel, by decide +kernel⟩
  rintro (⟨-, passed⟩ | ⟨code, -⟩)
  · exact absurd passed (by decide)
  · exact absurd code (by decide)

end CardLink.Controller
