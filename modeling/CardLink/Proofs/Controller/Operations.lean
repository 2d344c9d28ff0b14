import CardLink.Controller.Link
import CardLink.Proofs.Controller.Run
import CardLink.Proofs.Requester.Agreement

namespace CardLink.Controller

/-- What a link is put through. Its surroundings may do anything to the platform. -/
inductive Operation where
  | init
  | processEvent
  | packet (raw : List UInt8)
  | tick
  | send (data : List UInt8)
  | poll
  | enableAdvertising (on : Bool)
  | resetPairings
  | respond (answer : PairingAnswer)
  | setDeviceName (name : String)
  | setPlaneMode (on : Bool)
  | nextPairingMessage
  | surround (platform : Platform)

/-- The core's part in the writing of some queued frames: each leaves the outbox, and is given up
if it cannot be written. -/
def Core.writing : Nat → Core → Platform → List (Core × Input)
  | 0, _, _ => []
  | count + 1, c, p =>
    match c.nextCommand with
    | (none, _) => []
    | (some frame, core) =>
      match writeFrame core.settings.controllerRetry frame 0 p with
      | (.ok (), p) => (c, .nextCommand) :: core.writing count p
      | (.error _, p) =>
        (c, .nextCommand) :: (core, .commandDropped) :: core.commandDropped.writing count p

/-- Packets of a wrong form do not reach the core. -/
def Input.ofRaw? (raw : List UInt8) : Option Input :=
  match EventPacket.parse raw with
  | .error _ => none
  | .ok event => some (.packet event)

def Input.ofEvent? : PlatformEvent → Option Input
  | .hci raw => ofRaw? raw
  | .tick => some .tick
  | .usb _ | .other => none

namespace Link

def operate? (l : Link) : Operation → Except Fault Link
  | .init => .ok l.init
  | .processEvent => l.processEvent?.map Prod.snd
  | .packet raw => l.handlePacket? raw
  | .tick => .ok l.handleTick
  | .send data => .ok (l.send data).2
  | .poll => .ok { l with core := l.core.poll.2 }
  | .enableAdvertising on => .ok (l.enableAdvertising on)
  | .resetPairings => .ok l.resetPairings
  | .respond answer => .ok (l.respond answer)
  | .setDeviceName name => .ok (l.setDeviceName name)
  | .setPlaneMode on => .ok (l.setPlaneMode on)
  | .nextPairingMessage => .ok { l with core := l.core.nextPairingMessage.2 }
  | .surround platform => .ok { l with platform := platform }

/-- The core takes an input, if there is one, and what is then queued is written. -/
def performing (l : Link) : Option Input → List (Core × Input)
  | none => l.core.writing l.core.outbox.length l.platform
  | some input =>
    (l.core, input) ::
      (l.core.step input).writing (l.core.step input).outbox.length l.platform

/-- The inputs of the core during an operation, each with the state that it meets. -/
def inputs (l : Link) : Operation → List (Core × Input)
  | .init => l.performing (some .beginInit)
  | .processEvent =>
    match l.platform.queue with
    | [] => []
    | event :: rest =>
      { l with platform := { l.platform with queue := rest } }.performing (Input.ofEvent? event)
  | .packet raw => l.performing (Input.ofRaw? raw)
  | .tick => l.performing (some .tick)
  | .send data => l.performing (some (.sendMessage data))
  | .poll => [(l.core, .poll)]
  | .enableAdvertising on => l.performing (some (.enableAdvertising on))
  | .resetPairings => l.performing (some .resetPairings)
  | .respond answer => l.performing (some (.respond answer))
  | .setDeviceName name => [(l.core, .setDeviceName name)]
  | .setPlaneMode on => [(l.core, .setPlaneMode on)]
  | .nextPairingMessage => [(l.core, .nextPairingMessage)]
  | .surround _ => []

/-- The inputs of the core from a link on, each with the state that it met. -/
inductive Run (initial : Link) : List (Core × Input) → Link → Prop
  | start : Run initial [] initial
  | next {past : List (Core × Input)} {l after : Link} (run : Run initial past l)
      (operation : Operation) (done : l.operate? operation = .ok after) :
      Run initial (past ++ l.inputs operation) after

theorem repeat_writeNext (count : Nat) (l : Link) :
    Nat.repeat writeNext (count + 1) l = Nat.repeat writeNext count l.writeNext := by
  induction count with
  | zero => rfl
  | succ count ih => exact congrArg writeNext ih

theorem writeNext_requester (l : Link) : l.writeNext.requester = l.requester := by
  unfold writeNext
  split
  · rfl
  · split <;> rfl

theorem flush_requester (l : Link) : l.flush.requester = l.requester := by
  unfold flush
  generalize l.core.outbox.length = count
  induction count with
  | zero => rfl
  | succ count ih => exact (writeNext_requester _).trans ih

/-- Nothing is done for an empty outbox. -/
theorem writing_nil {c : Core} (empty : c.outbox = []) (count : Nat) (p : Platform) :
    c.writing count p = [] := by
  cases count <;> simp only [Core.writing, Core.nextCommand, empty]

theorem writing_run (count : Nat) (l : Link) :
    Controller.Run l.core (l.core.writing count l.platform)
      (Nat.repeat writeNext count l).core := by
  induction count generalizing l with
  | zero => exact .start
  | succ count ih =>
    rw [repeat_writeNext]
    cases queued : l.core.outbox with
    | nil =>
      have idle : l.writeNext = l := by simp only [writeNext, Core.nextCommand, queued]
      have rest := ih l
      rw [writing_nil queued] at rest ⊢
      exact idle.symm ▸ rest
    | cons frame rest =>
      have taken : l.core.step .nextCommand = { l.core with outbox := rest } := by
        simp only [Core.step, Core.nextCommand, queued]
      simp only [Core.writing, writeNext, Core.nextCommand, queued]
      generalize writeFrame l.core.settings.controllerRetry frame 0 l.platform = written
      obtain ⟨result, p⟩ := written
      cases result with
      | ok =>
        refine .cons .nextCommand ?_
        rw [taken]
        exact ih { l with platform := p, core := { l.core with outbox := rest } }
      | error =>
        refine .cons .nextCommand ?_
        rw [taken]
        refine .cons .commandDropped ?_
        exact ih { l with
          platform := p, core := Core.commandDropped { l.core with outbox := rest } }

/-- What holds of the writing of frames holds of an operation if it holds of its input. -/
theorem forall_performing {P : Core × Input → Prop} (taken : ∀ c, P (c, .nextCommand))
    (dropped : ∀ c, P (c, .commandDropped)) (l : Link) {input : Input}
    (given : P (l.core, input)) : ∀ e ∈ l.performing (some input), P e := by
  have written (count : Nat) (c : Core) (p : Platform) : ∀ e ∈ c.writing count p, P e := by
    induction count generalizing c p with
    | zero => exact List.forall_mem_nil _
    | succ count ih =>
      unfold Core.writing
      split
      · exact List.forall_mem_nil _
      · split
        · exact List.forall_mem_cons.mpr ⟨taken c, ih _ _⟩
        · exact List.forall_mem_cons.mpr
            ⟨taken c, List.forall_mem_cons.mpr ⟨dropped _, ih _ _⟩⟩
  exact List.forall_mem_cons.mpr ⟨given, written _ _ _⟩

theorem performing_run (l : Link) (input : Option Input) :
    Controller.Run l.core (l.performing input)
      { l with core := input.elim l.core l.core.step }.flush.core := by
  cases input with
  | none => exact writing_run _ l
  | some input => exact .cons input (writing_run _ { l with core := l.core.step input })

variable {l after : Link} {size period : Nat}

theorem performing_flush (reach : Requester.Reach size period l.requester)
    (input : Option Input) : Controller.Run l.core (l.performing input)
        { l with core := input.elim l.core l.core.step }.flush.core ∧
      Requester.Reach size period
        { l with core := input.elim l.core l.core.step }.flush.requester :=
  ⟨l.performing_run input, (flush_requester _).symm ▸ reach⟩

/-- A packet goes to the core as it came, unless its form is wrong, and what is then queued is
written. The requester is ready for the next one. -/
theorem handlePacket?_eq (reach : Requester.Reach size period l.requester) (positive : 0 < size)
    (raw : List UInt8) : ∃ requester, Requester.Reach size period requester ∧
      l.handlePacket? raw =
        match EventPacket.parse raw with
        | .error _ => .ok { l with requester := requester }.flush
        | .ok packet =>
          match l.core.onPacket? packet with
          | .error fault => .error fault
          | .ok core => .ok { l with requester := requester, core := core }.flush := by
  have heard := (reach.resting positive).deliver_state positive Core.listener raw (.ok l.core)
  refine ⟨_, reach.delivered Core.listener raw (.ok l.core), ?_⟩
  unfold handlePacket?
  generalize l.requester.deliver Core.listener raw (.ok l.core) = delivered at *
  obtain ⟨_, requester, state⟩ := delivered
  subst heard
  cases EventPacket.parse raw with
  | error => rfl
  | ok packet =>
    simp only [Core.listener, Except.bind]
    cases l.core.onPacket? packet <;> rfl

theorem handlePacket?_run (reach : Requester.Reach size period l.requester)
    (positive : 0 < size) {raw : List UInt8} (done : l.handlePacket? raw = .ok after) :
    Controller.Run l.core (l.performing (Input.ofRaw? raw)) after.core ∧
      Requester.Reach size period after.requester := by
  obtain ⟨requester, still, handled⟩ := handlePacket?_eq reach positive raw
  rw [handled] at done
  have performed := performing_flush (l := { l with requester := requester }) still
    (Input.ofRaw? raw)
  unfold Input.ofRaw? at performed ⊢
  cases parsed : EventPacket.parse raw with
  | error =>
    simp only [parsed] at done performed
    cases done
    exact performed
  | ok packet =>
    simp only [parsed, Core.onPacket?] at done performed
    split at done
    · cases done
    · rename_i taken
      split at taken <;> cases taken
      cases done
      exact performed

theorem processEvent?_run (reach : Requester.Reach size period l.requester)
    (positive : 0 < size) {answer : Bool} (done : l.processEvent? = .ok (answer, after)) :
    Controller.Run l.core (l.inputs .processEvent) after.core ∧
      Requester.Reach size period after.requester := by
  unfold processEvent? at done
  unfold inputs
  match queued : l.platform.queue with
  | [] =>
    rw [queued] at done
    cases done
    exact ⟨.start, reach⟩
  | .hci raw :: rest =>
    simp only [queued] at done
    split at done
    · cases done
    · rename_i handled
      cases done
      exact handlePacket?_run (l := { l with platform := { l.platform with queue := rest } })
        reach positive handled
  | .tick :: rest =>
    rw [queued] at done
    cases done
    exact performing_flush (l := { l with platform := { l.platform with queue := rest } })
      reach (some .tick)
  | .usb _ :: rest | .other :: rest =>
    rw [queued] at done
    cases done
    exact performing_flush (l := { l with platform := { l.platform with queue := rest } })
      reach none

/-- An operation that succeeds is a run of the core. -/
theorem operate?_run (reach : Requester.Reach size period l.requester) (positive : 0 < size)
    {operation : Operation} (done : l.operate? operation = .ok after) :
    Controller.Run l.core (l.inputs operation) after.core ∧
      Requester.Reach size period after.requester := by
  have applied (input : Input) : Controller.Run l.core [(l.core, input)] (l.core.step input) :=
    Controller.Run.start.next input
  cases operation with
  | packet raw => exact handlePacket?_run reach positive done
  | processEvent =>
    unfold operate? at done
    cases processed : l.processEvent? with
    | error =>
      rw [processed] at done
      cases done
    | ok pair =>
      rw [processed] at done
      cases done
      exact processEvent?_run reach positive processed
  | poll | setDeviceName | setPlaneMode | nextPairingMessage =>
    cases done
    exact ⟨applied _, reach⟩
  | surround =>
    cases done
    exact ⟨.start, reach⟩
  | _ =>
    cases done
    exact performing_flush reach (some _)

/-- A run of a link is a run of its core. -/
theorem Run.core {initial : Link} {past : List (Core × Input)} (run : Run initial past l)
    (reach : Requester.Reach size period initial.requester) (positive : 0 < size) :
    Controller.Run initial.core past l.core ∧ Requester.Reach size period l.requester := by
  induction run with
  | start => exact ⟨.start, reach⟩
  | next _ operation done ih =>
    obtain ⟨went, still⟩ := operate?_run ih.2 positive done
    exact ⟨ih.1.append went, still⟩

end Link

end CardLink.Controller
