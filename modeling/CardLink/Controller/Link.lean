import CardLink.Controller.Events
import CardLink.Identity

namespace CardLink

namespace Controller

/-- Writes a frame until it is taken, fails otherwise, or the policy ends the retries. -/
def writeFrame (policy : RetryPolicy) (frame : List UInt8) (attempt : Nat) (p : Platform) :
    Except WriteError Unit × Platform :=
  match refused : (p.send frame).1 with
  | .error .insufficientResources =>
    let attempt := min 65535 (attempt + 1)
    if policy.allows attempt then
      have := Platform.outcomes_of_refused refused
      writeFrame policy frame attempt ((p.send frame).2.backOff policy)
    else (.error .insufficientResources, (p.send frame).2)
  | result => (result, (p.send frame).2)
termination_by p.outcomes.length
decreasing_by simpa using this

/-- After every event and operation the queued frames are written, each retried while the controller
has no free buffer. -/
structure Link where
  platform : Platform := {}
  requester : Requester
  core : Core

namespace Link

def create? (settings : Settings) (random : RandomSource) (name : String) (serial : List UInt8)
    (planeMode : Bool) (platform : Platform) : Except Fault Link :=
  match Core.create? settings random name (Identity.staticAddress serial) planeMode with
  | .error fault => .error fault
  | .ok core => .ok {
      platform := platform
      requester := { tick := Settings.microseconds settings.tick }
      core := core }

/-- Writes the first frame of the outbox; the core learns of one that is given up. -/
def writeNext (l : Link) : Link :=
  match l.core.nextCommand with
  | (none, _) => l
  | (some frame, core) =>
    match writeFrame core.settings.controllerRetry frame 0 l.platform with
    | (.ok (), platform) => { l with platform := platform, core := core }
    | (.error _, platform) => { l with platform := platform, core := core.commandDropped }

/-- Writes every queued frame. Writing queues no further one. -/
def flush (l : Link) : Link := Nat.repeat writeNext l.core.outbox.length l

def handlePacket? (l : Link) (raw : List UInt8) : Except Fault Link :=
  match l.requester.deliver Core.listener raw (.ok l.core) with
  | (_, _, .error fault) => .error fault
  | (_, requester, .ok core) => .ok { l with requester := requester, core := core }.flush

/-- A tick that came outside the platform's queue. -/
def handleTick (l : Link) : Link := { l with core := l.core.onTick }.flush

def processEvent? (l : Link) : Except Fault (Bool × Link) :=
  match l.platform.queue with
  | [] => .ok (false, l)
  | event :: rest =>
    let l := { l with platform := { l.platform with queue := rest } }
    match event with
    | .hci raw =>
      match l.handlePacket? raw with
      | .error fault => .error fault
      | .ok l => .ok (true, l)
    | .tick => .ok (true, l.handleTick)
    | .usb _ | .other => .ok (true, l.flush)

/-- Takes events until there is none, at most this many, and counts them. -/
def pump? : Nat → Link → Except Fault (Nat × Link)
  | 0, l => .ok (0, l)
  | limit + 1, l =>
    match l.processEvent? with
    | .error fault => .error fault
    | .ok (false, l) => .ok (0, l)
    | .ok (true, l) =>
      match pump? limit l with
      | .error fault => .error fault
      | .ok (count, l) => .ok (count + 1, l)

def perform (l : Link) (operation : Core → Core) : Link :=
  { l with core := operation l.core }.flush

def init (l : Link) : Link := l.perform Core.beginInit

def send (l : Link) (data : List UInt8) : Except SendError Unit × Link :=
  let (result, core) := l.core.sendMessage data
  (result, { l with core := core }.flush)

def enableAdvertising (l : Link) (on : Bool) : Link := l.perform (·.enableAdvertising on)

def resetPairings (l : Link) : Link := l.perform Core.resetPairings

def respond (l : Link) (answer : PairingAnswer) : Link := l.perform (·.respond answer)

/-- A new name is used by the next payloads that are built; nothing is written now. -/
def setDeviceName (l : Link) (name : String) : Link := { l with core := l.core.setDeviceName name }

def setPlaneMode (l : Link) (on : Bool) : Link := { l with core := l.core.setPlaneMode on }

end Link

end Controller

end CardLink
