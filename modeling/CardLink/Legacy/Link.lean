import CardLink.Advertising
import CardLink.Gatt
import CardLink.Identity
import CardLink.Legacy.Core

namespace CardLink.Legacy

/-- Every controller command blocks until its reply is there, and a message is sent chunk by chunk,
each retried while the controller has no free buffer. -/
structure Link where
  platform : Platform := {}
  requester : Requester
  core : Core
  settings : Settings
  name : String
  address : List UInt8
  deriving DecidableEq, Repr

/-- The commands of setup, in the order of `setupSteps`. -/
inductive SetupStep where
  | writeAddress
  | gattInit
  | gapInit
  | authRequirement
  | addService
  | addTxChar
  | addRxChar
  | txPower
  | scanResponse
  | deviceName
  | appearance
  | discoverable
  deriving DecidableEq, Repr

def SetupStep.command : SetupStep → Command
  | writeAddress => .writeConfig
  | gattInit => .gattInit
  | gapInit => .gapInit
  | authRequirement => .setAuthRequirement
  | addService => .addService
  | addTxChar | addRxChar => .addChar
  | txPower => .setTxPower
  | scanResponse => .setScanResponse
  | deviceName | appearance => .updateCharValue
  | discoverable => .setDiscoverable

/-- Empty scan response, name and appearance, then advertising. -/
def discoverableSteps : List SetupStep := [.scanResponse, .deviceName, .appearance, .discoverable]

def setupSteps : List SetupStep :=
  [.writeAddress, .gattInit, .gapInit, .authRequirement, .addService, .addTxChar, .addRxChar,
    .txPower] ++ discoverableSteps

def gapDeviceName : List UInt8 := Advertising.utf8 "Ledger"

def peripheralRole : UInt8 := 0x01

/-- Room that the controller reserves for the device name. -/
def gapNameCapacity : UInt8 := 7

def fixedPin : UInt32 := 1337

def minKeySize : UInt8 := 7

def serviceRecords : UInt8 := 7

/-- No man-in-the-middle protection, no out-of-band data, the fixed pin, no bonding. -/
def authParams : List UInt8 :=
  [0x00, 0x00] ++ List.replicate 16 0 ++ [minKeySize, Gatt.encryptionKeySize, 0x00] ++
    Word.little32 fixedPin ++ [0x00]

def serviceParams : List UInt8 :=
  Gatt.longIdentifier :: Gatt.legacyService ++ [Gatt.primaryService, serviceRecords]

/-- Advertising interval bounds in units of 0.625 ms. -/
def advIntervalMin : UInt16 := 312

def advIntervalMax : UInt16 := 1875

/-- Connection interval bounds in units of 1.25 ms. -/
def connIntervalMin : UInt16 := 7

def connIntervalMax : UInt16 := 62

/-- Failures of a request as failures of a write. -/
def writeError : CommandError → WriteError
  | .link cause => cause
  | _ => .io

def checkStatus (reply : List UInt8) : Except CommandError Unit :=
  match reply with
  | status :: _ => if status = 0 then .ok () else .error (.controller status)
  | [] => .ok ()

/-- An event between commands; a packet that is refused is lost. -/
def takeEvent (event : PlatformEvent) (r : Requester) (c : Core) : Requester × Core :=
  match event with
  | .hci raw => (r.deliver Core.listener raw c).2
  | .tick => (r, Core.listener.tick c)
  | event => (r, Core.listener.unrouted event c)

/-- Takes events until a notification buffer is free. -/
def awaitPool : List PlatformEvent → Requester → Core →
    Except WriteError Unit × List PlatformEvent × Requester × Core
  | [], r, c =>
    if c.txPoolAvailable then (.ok (), [], r, c)
    else if c.connection.isNone then (.error .notConnected, [], r, c)
    else (.error .io, [], r, c)
  | event :: rest, r, c =>
    if c.txPoolAvailable then (.ok (), event :: rest, r, c)
    else if c.connection.isNone then (.error .notConnected, event :: rest, r, c)
    else
      let (r, c) := takeEvent event r c
      awaitPool rest r c

/-- The event can make the core queue an action: at most three, and a completion none. -/
def stirs : PlatformEvent → Bool
  | .hci raw => raw[1]? != some EventCode.commandComplete
  | .tick => true
  | .usb _ | .other => false

namespace Link

def create (settings : Settings) (serial : List UInt8) (platform : Platform) : Link where
  platform := platform
  requester := { tick := Settings.microseconds settings.tick }
  core := .create settings
  settings := settings
  name := Identity.legacyName (Identity.uid serial)
  address := Identity.legacyAddress (Identity.uid serial)

/-- Performs a command and gives its reply, up to `room` bytes of it. -/
def ask (l : Link) (command : Command) (params : List UInt8) (room : Nat) :
    Except CommandError (List UInt8) × Link :=
  let request : Request :=
    { opcode := command.opcode, params := params, room := room
      limit := Settings.microseconds l.settings.hciTimeout }
  let (answer, requester, platform, core) :=
    l.requester.ask Core.listener request l.platform l.core
  (answer, { l with requester := requester, platform := platform, core := core })

def command (l : Link) (command : Command) (params : List UInt8) : Except CommandError Unit × Link :=
  match l.ask command params 1 with
  | (.error error, l) => (.error error, l)
  | (.ok reply, l) => (checkStatus reply, l)

def askHandles (l : Link) (command : Command) (params : List UInt8) (count : Nat) :
    Except CommandError (List UInt8) × Link :=
  match l.ask command params (1 + 2 * count) with
  | (.error error, l) => (.error error, l)
  | (.ok reply, l) =>
    match checkStatus reply with
    | .error error => (.error error, l)
    | .ok () => if reply.length < 1 + 2 * count then (.error .malformed, l) else (.ok reply, l)

/-- Waits for a free buffer, or for the time that the retry policy gives. -/
def waitTxPool (l : Link) : Except WriteError Unit × Link :=
  match l.settings.legacyRetry with
  | .unbounded =>
    let (result, queue, requester, core) := awaitPool l.platform.queue l.requester l.core
    (result, { l with
      platform := { l.platform with queue := queue }, requester := requester, core := core })
  | .bounded _ backoff => (.ok (), { l with platform := l.platform.pause backoff.toNat })

/-- Writes a value until it is taken, fails, or the policy ends the retries. The flag of a free
buffer is cleared before each write, so an event that comes before the refusal is not missed. -/
def updateWithin (params : List UInt8) : Nat → Nat → Link → Except WriteError Unit × Link
  | 0, _, l => (.error .io, l)
  | rounds + 1, attempt, l =>
    let l := { l with core := { l.core with txPoolAvailable := false } }
    match l.ask .updateCharValue params 1 with
    | (.error error, l) => (.error (writeError error), l)
    | (.ok [], l) => (.ok (), l)
    | (.ok (status :: _), l) =>
      if status = 0 then (.ok (), l)
      else if status = statusInsufficientResources then
        let attempt := min 65535 (attempt + 1)
        if l.settings.legacyRetry.allows attempt then
          match l.waitTxPool with
          | (.error error, l) => (.error error, l)
          | (.ok (), l) => updateWithin params rounds attempt l
        else (.error .retriesExhausted, l)
      else (.error (.status status), l)

/-- Only an event of the script reports a missing buffer, so it bounds the rounds. -/
def update (l : Link) (params : List UInt8) : Except WriteError Unit × Link :=
  updateWithin params (l.platform.scripted.length + 1) 0 l

/-- Service, characteristic, offset zero, length, value. -/
def valueParams (service handle : UInt16) (value : List UInt8) : List UInt8 :=
  Word.little service ++ Word.little handle ++ [0x00, UInt8.ofNat value.length] ++ value

def updateCharValue (l : Link) (service handle : UInt16) (value : List UInt8) :
    Except WriteError Unit × Link :=
  l.update (valueParams service handle value)

def notify (l : Link) (chunk : List UInt8) : Except WriteError Unit × Link :=
  l.updateCharValue l.core.handles.service l.core.handles.tx chunk

def writeResponse (l : Link) (connection attr : UInt16) (data : List UInt8) :
    Except CommandError Unit × Link :=
  l.command .writeResponse (Word.little connection ++ Word.little attr ++
    [0x00, 0x00, UInt8.ofNat data.length] ++ data)

def charParams (l : Link) (service : UInt16) (identifier : List UInt8) (property mask : UInt8) :
    List UInt8 :=
  Word.little service ++ Gatt.longIdentifier :: identifier ++
    [l.settings.legacyChunkLength, property, Gatt.permNone, mask, Gatt.encryptionKeySize,
      Gatt.variableLength]

/-- The name, interval bounds and address type of advertising. -/
def discoverableParams (l : Link) : List UInt8 :=
  let name := Advertising.localName (Advertising.utf8 l.name)
  [0x00] ++ Word.little advIntervalMin ++ Word.little advIntervalMax ++
    [0x00, 0x00, UInt8.ofNat name.length] ++ name ++ [0x00] ++
    Word.little connIntervalMin ++ Word.little connIntervalMax

/-- What a step of setup asks for, with the handles collected so far. -/
def setupParams (l : Link) (handles : Handles) : SetupStep → List UInt8
  | .writeAddress => [0x00, 6] ++ l.address
  | .gattInit => []
  | .gapInit => [peripheralRole, 0, gapNameCapacity]
  | .authRequirement => authParams
  | .addService => serviceParams
  | .addTxChar => l.charParams handles.service Gatt.legacyTx Gatt.propNotify Gatt.maskNone
  | .addRxChar => l.charParams handles.service Gatt.legacyRx Gatt.propWrite Gatt.maskWriteAndWait
  | .txPower => [0x01, l.settings.txPowerLevel]
  | .scanResponse => List.replicate 32 0
  | .deviceName =>
    valueParams l.core.handles.gapService l.core.handles.gapDeviceName gapDeviceName
  | .appearance =>
    valueParams l.core.handles.gapService l.core.handles.gapAppearance
      (Word.little l.settings.appearance)
  | .discoverable => l.discoverableParams

/-- A step that only needs a status keeps the handles collected so far. -/
def plainStep (l : Link) (command : Command) (params : List UInt8) (handles : Handles) :
    Except CommandError Handles × Link :=
  match l.command command params with
  | (.error error, l) => (.error error, l)
  | (.ok (), l) => (.ok handles, l)

/-- One setup command, with the handles collected so far. The core learns the handles once both
characteristics are there; a name or appearance that is refused does not stop setup. -/
def setupStep (l : Link) (handles : Handles) (step : SetupStep) :
    Except CommandError Handles × Link :=
  let params := l.setupParams handles step
  match step with
  | .writeAddress | .gattInit | .authRequirement | .txPower | .scanResponse | .discoverable =>
    l.plainStep step.command params handles
  | .gapInit =>
    match l.askHandles step.command params 3 with
    | (.error error, l) => (.error error, l)
    | (.ok reply, l) =>
      (.ok { handles with
        gapService := Word.littleAt reply 1
        gapDeviceName := Word.littleAt reply 3
        gapAppearance := Word.littleAt reply 5 }, l)
  | .addService =>
    match l.askHandles step.command params 1 with
    | (.error error, l) => (.error error, l)
    | (.ok reply, l) => (.ok { handles with service := Word.littleAt reply 1 }, l)
  | .addTxChar =>
    match l.askHandles step.command params 1 with
    | (.error error, l) => (.error error, l)
    | (.ok reply, l) => (.ok { handles with tx := Word.littleAt reply 1 }, l)
  | .addRxChar =>
    match l.askHandles step.command params 1 with
    | (.error error, l) => (.error error, l)
    | (.ok reply, l) =>
      let handles := { handles with rx := Word.littleAt reply 1 }
      (.ok handles, { l with core := { l.core with handles := handles } })
  | .deviceName | .appearance => (.ok handles, (l.update params).2)

def setupRun : List SetupStep → Handles → Link → Except CommandError Unit × Link
  | [], _, l => (.ok (), l)
  | step :: rest, handles, l =>
    match l.setupStep handles step with
    | (.error error, l) => (.error error, l)
    | (.ok handles, l) => setupRun rest handles l

def makeDiscoverable (l : Link) : Except CommandError Unit × Link :=
  setupRun discoverableSteps {} l

def setup (l : Link) : Except CommandError Unit × Link :=
  setupRun setupSteps {} { l with core := l.core.resetLink }

/-- Switches the radio; switching it on runs the setup. -/
def power (l : Link) (on : Bool) : Except CommandError Unit × Link :=
  let l := { l with platform := l.platform.switchRadio on, core := l.core.resetLink }
  if on then l.setup else (.ok (), l)

/-- A failing action is not reported. -/
def perform (l : Link) : Action → Link
  | .notify chunk => (l.notify chunk).2
  | .writeResponse connection attr data => (l.writeResponse connection attr data).2
  | .powerCycle => ((l.power false).2.power true).2

/-- How many actions can still be performed: those queued, and those of events still to come. -/
def actionBound (l : Link) : Nat :=
  3 * l.platform.scripted.countP stirs + l.core.actions.length

def runWithin : Nat → Link → Link
  | 0, l => l
  | rounds + 1, l =>
    match l.core.nextAction with
    | (none, _) => l
    | (some action, core) => runWithin rounds ({ l with core := core }.perform action)

/-- Performs queued actions until none is left, those that arise meanwhile included. -/
def runActions (l : Link) : Link :=
  if l.core.actions.isEmpty then l else runWithin l.actionBound l

/-- Takes one event and performs the actions it led to; false once there is no event. -/
def processEvent (l : Link) : Bool × Link :=
  match l.platform.queue with
  | [] => (false, l)
  | event :: rest =>
    let (requester, core) := takeEvent event l.requester l.core
    (true, { l with
      platform := { l.platform with queue := rest }
      requester := requester
      core := core }.runActions)

def pump : Nat → Link → Nat × Link
  | 0, l => (0, l)
  | limit + 1, l =>
    match l.processEvent with
    | (false, l) => (0, l)
    | (true, l) =>
      let (count, l) := pump limit l
      (count + 1, l)

def poll (l : Link) : Option Nat × Link :=
  let (length, endpoint) := l.core.endpoint.takeComplete
  (length, { l with core := { l.core with endpoint := endpoint } })

def message (l : Link) : List UInt8 := l.core.endpoint.message

def withEndpoint (l : Link) (endpoint : Endpoint .legacy) : Link :=
  { l with core := { l.core with endpoint := endpoint } }

def flushDeferred (l : Link) : Link :=
  match l.core.endpoint.takeDeferred with
  | (some reply, endpoint) => ((l.withEndpoint endpoint).notify reply).2
  | (none, endpoint) => l.withEndpoint endpoint

/-- Chunks of the message until none is left, the send is cancelled, or one fails. -/
def sendChunks (data : List UInt8) : Nat → Link → Except SendError Unit × Link
  | 0, l => (.ok (), l)
  | steps + 1, l =>
    match l.core.endpoint.nextChunk data with
    | (none, endpoint) => (.ok (), l.withEndpoint endpoint)
    | (some chunk, endpoint) =>
      match endpoint.enterTransmit with
      | (.error error, endpoint) => (.error error, l.withEndpoint endpoint)
      | (.ok (), endpoint) =>
        let (sent, l) := (l.withEndpoint endpoint).notify chunk
        let l := (l.withEndpoint l.core.endpoint.leaveTransmit).flushDeferred.runActions
        match sent with
        | .error error => (.error (.link error), l)
        | .ok () => sendChunks data steps l

/-- Sends a message as notifications; it is over once the controller has taken every chunk. -/
def send (l : Link) (data : List UInt8) : Except SendError Unit × Link :=
  match l.core.endpoint.beginSend data.length with
  | (.error error, endpoint) => (.error error, l.withEndpoint endpoint)
  | (.ok (), endpoint) =>
    let (result, l) := sendChunks data (data.length + 1) (l.withEndpoint endpoint)
    (result, (l.withEndpoint l.core.endpoint.finishSend).flushDeferred.runActions)

end Link

end CardLink.Legacy
