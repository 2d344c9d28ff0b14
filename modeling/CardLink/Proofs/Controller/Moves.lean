import CardLink.Proofs.Controller.Standing

namespace CardLink.Controller

inductive Input where
  | beginInit
  | packet (packet : EventPacket)
  | tick
  | nextCommand
  | commandDropped
  | poll
  | sendMessage (data : List UInt8)
  | enableAdvertising (on : Bool)
  | setDeviceName (name : String)
  | setPlaneMode (on : Bool)
  | resetPairings
  | respond (answer : PairingAnswer)
  | nextPairingMessage

/-- A disconnection that does not ask for a new initialisation. -/
def Input.Disconnects : Input → Prop
  | .packet event => event.code = EventCode.disconnectionComplete ∧
      event.params[3]?.getD 0 ≠ Core.reasonInstantPassed
  | _ => False

namespace Core

def step (c : Core) : Input → Core
  | .beginInit => c.beginInit
  | .packet packet => c.onPacket packet
  | .tick => c.onTick
  | .nextCommand => c.nextCommand.2
  | .commandDropped => c.commandDropped
  | .poll => c.poll.2
  | .sendMessage data => (c.sendMessage data).2
  | .enableAdvertising on => c.enableAdvertising on
  | .setDeviceName name => c.setDeviceName name
  | .setPlaneMode on => c.setPlaneMode on
  | .resetPairings => c.resetPairings
  | .respond answer => c.respond answer
  | .nextPairingMessage => c.nextPairingMessage.2

/-- The completion answers a request to switch advertising off, and a client is connected. -/
def DropsConnection (c : Core) (packet : EventPacket) : Prop :=
  (c.phase = .idle ∨ c.phase = .ready) ∧
    (packet.opcode = some Command.setNonDiscoverable.opcode ∨
      packet.opcode = some Command.setDiscoverable.opcode) ∧
    c.advRequest = some false ∧ c.connection.isConnected = true

def ProcedureTimedOut (c : Core) (packet : EventPacket) : Prop :=
  2 ≤ packet.vendorData.length ∧ Word.littleAt packet.vendorData 0 = c.connection.handle ∧
    packet.vendorCode.bind VendorEvent.ofCode? = some .procedureTimeout

/-- The input starts the initialisation, or starts it again. -/
def Restarts (c : Core) : Input → Prop
  | .beginInit => True
  | .resetPairings => c.ready = true ∧ c.connection.isConnected = true
  | .packet packet =>
    match packet.kind with
    | .hardwareError => True
    | .commandComplete => c.DropsConnection packet
    | .asynchronous =>
      packet.code = EventCode.disconnectionComplete ∧
          packet.params[3]?.getD 0 = reasonInstantPassed ∨
        packet.code = EventCode.vendor ∧ c.ProcedureTimedOut packet
    | .commandStatus | .leMeta _ => False
  | _ => False

/-- Where an input can take the initialisation. A sequence fails or goes on from its own phase
only; a disconnection sets advertising up from any phase. -/
inductive Move (c : Core) (input : Input) : Standing → Prop
  | restarted (restarts : c.Restarts input) (connected : ¬input.Disconnects) :
      Move c input ⟨.initializing, .reset, false, none⟩
  | disconnected {phase : Phase} (continues : ¬c.Restarts input) (disconnects : input.Disconnects)
      (up : phase = .configuringAdvertising ∨ phase = .ready) :
      Move c input { c.standing with phase := phase }
  | kept (continues : ¬c.Restarts input) (connected : ¬input.Disconnects) :
      Move c input c.standing
  | requested (on : Bool) (continues : ¬c.Restarts input) (connected : ¬input.Disconnects)
      (ready : c.ready = true) : Move c input { c.standing with advRequest := some on }
  | switched (continues : ¬c.Restarts input) (connected : ¬input.Disconnects)
      (settled : c.phase = .idle ∨ c.phase = .ready) :
      Move c input { c.standing with advRequest := none }
  | renamed {phase : Phase} (continues : ¬c.Restarts input) (connected : ¬input.Disconnects)
      (settled : c.phase = .idle ∨ c.phase = .ready) (disabling : c.advRequest = some false)
      (up : phase = .configuringAdvertising ∨ phase = .ready) :
      Move c input { c.standing with phase := phase, advRequest := none }
  | dropped (continues : ¬c.Restarts input) (connected : ¬input.Disconnects)
      (running : c.phase = .initializing ∨ c.phase = .configuringAdvertising) :
      Move c input { c.standing with phase := .failed, ready := false }
  | advanced (step : InitStep) (continues : ¬c.Restarts input) (connected : ¬input.Disconnects)
      (initializing : c.phase = .initializing) : Move c input { c.standing with initStep := step }
  | initialized (continues : ¬c.Restarts input) (connected : ¬input.Disconnects)
      (initializing : c.phase = .initializing) :
      Move c input { c.standing with phase := .ready, initStep := .finished, ready := true }
  | advertised (continues : ¬c.Restarts input) (connected : ¬input.Disconnects)
      (configuring : c.phase = .configuringAdvertising) :
      Move c input { c.standing with phase := .ready }

theorem Move.of_same {c after : Core} {input : Input} (continues : ¬c.Restarts input)
    (connected : ¬input.Disconnects) (same : after.standing = c.standing) :
    c.Move input after.standing := by
  rw [same]
  exact .kept continues connected

end Core

end CardLink.Controller
