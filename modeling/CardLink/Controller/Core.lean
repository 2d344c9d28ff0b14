import CardLink.Advertising
import CardLink.Controller.Step
import CardLink.Countdown
import CardLink.Framing.Endpoint
import CardLink.Gatt
import CardLink.Packet.Event
import CardLink.Packet.Frame
import CardLink.Pairing

namespace CardLink.Controller

/-- The connection handle that stands for none. -/
def noConnection : UInt16 := 0xFFFF

structure Handles where
  gapService : UInt16 := 0
  gapDeviceName : UInt16 := 0
  gapAppearance : UInt16 := 0
  service : UInt16 := 0
  notify : UInt16 := 0
  write : UInt16 := 0
  writeCommand : UInt16 := 0
  deriving DecidableEq, Repr

structure Connection where
  handle : UInt16 := noConnection
  /-- Units of 1.25 ms. -/
  interval : UInt16 := 0
  latency : UInt16 := 0
  /-- Units of 10 ms. -/
  supervisionTimeout : UInt16 := 0
  encrypted : Bool := false
  maxTxOctets : UInt16 := 0
  maxTxTime : UInt16 := 0
  maxRxOctets : UInt16 := 0
  maxRxTime : UInt16 := 0
  txPhy : UInt8 := 0
  rxPhy : UInt8 := 0
  deriving DecidableEq, Repr

def Connection.isConnected (c : Connection) : Bool := c.handle != noConnection

/-- A notification that waits for the acknowledgement of a write response. -/
structure PendingNotify where
  chunk : List UInt8
  /-- It carries a part of a message, not a control reply. -/
  ofMessage : Bool
  deriving DecidableEq, Repr

/-- Nothing here blocks: every command goes to an outbox, and its completion arrives later as an
event. -/
structure Core where
  settings : Settings
  phase : Phase := .idle
  initStep : InitStep := .idle
  advStep : AdvStep := .idle
  /-- The command whose completion the running sequence waits for; none accepts any. -/
  awaited : Option Command := none
  /-- The last initialisation ran to its end. -/
  ready : Bool := false
  name : List UInt8
  nameChanged : Bool := false
  address : List UInt8
  planeMode : Bool
  /-- The running configuration is to start advertising. -/
  advWanted : Bool := !planeMode
  /-- The last request to switch advertising, until a completion answers it. -/
  advRequest : Option Bool := none
  advertising : Bool := false
  handles : Handles := {}
  connection : Connection := {}
  /-- Shorter connection intervals have been asked for since the connection. -/
  connectionUpdated : Bool := false
  notifications : Bool := false
  /-- The bonds are to be cleared at the end of the initialisation. -/
  clearPairing : Bool := false
  pairing : Pairing
  endpoint : Endpoint .negotiated
  txData : List UInt8 := []
  chunkInFlight : Bool := false
  /-- A write response has been queued and not acknowledged. -/
  awaitingWriteAck : Bool := false
  pending : Option PendingNotify := none
  transferTimeout : Countdown := {}
  /-- Frames to be written, the oldest first. -/
  outbox : List (List UInt8) := []

/-- Frames that the outbox holds; further ones are lost. -/
def outboxCapacity : Nat := 8

namespace Core

def create (settings : Settings) (random : RandomSource) (name : String) (address : List UInt8)
    (planeMode : Bool) : Core where
  settings := settings
  name := Advertising.clipName name
  address := address
  planeMode := planeMode
  pairing := { random := random }
  endpoint := { layout := .negotiable settings.initialChunkLength settings.maxMtu }

/-- Refuses settings without an initial chunk length. -/
def create? (settings : Settings) (random : RandomSource) (name : String) (address : List UInt8)
    (planeMode : Bool) : Except Fault Core :=
  match settings.initialChunkLength? with
  | .error fault => .error fault
  | .ok _ => .ok (create settings random name address planeMode)

def nextCommand (c : Core) : Option (List UInt8) × Core :=
  match c.outbox with
  | [] => (none, c)
  | frame :: rest => (some frame, { c with outbox := rest })

/-- A frame was given up. A sequence that waits for it could never go on, so it fails; a lost
notification is left to the transfer timeout. -/
def commandDropped (c : Core) : Core :=
  match c.phase with
  | .initializing | .configuringAdvertising =>
    { c with phase := .failed, ready := false, outbox := [] }
  | .idle | .ready | .failed => c

/-- Queues a command, unless it cannot be framed or the outbox is full. -/
def send (c : Core) (command : Command) (params : List UInt8) : Core :=
  match Frame.build command.opcode params with
  | .error _ => c
  | .ok frame =>
    if c.outbox.length < outboxCapacity then { c with outbox := c.outbox ++ [frame] } else c

/-- Queues the command of a step, if it has one, and awaits its completion. -/
def sendStep (c : Core) (command? : Option Command) (params : List UInt8) : Core :=
  match command? with
  | none => c
  | some command => { c with awaited := some command }.send command params

/-- The running sequence accepts the completion of this opcode. -/
def awaits (c : Core) (opcode : UInt16) : Bool :=
  match c.awaited with
  | none => true
  | some command => opcode == command.opcode

/-- Service, characteristic, offset zero, length, value. -/
def updateParams (service handle : UInt16) (value : List UInt8) : List UInt8 :=
  Word.little service ++ Word.little handle ++ [0x00, UInt8.ofNat value.length] ++ value

def updateCharValue (c : Core) (service handle : UInt16) (value : List UInt8) : Core :=
  c.send .updateCharValue (updateParams service handle value)

def discoverableParams (c : Core) : List UInt8 :=
  let name := Advertising.localName c.name
  [0x00] ++ Word.little c.settings.advIntervalMin ++ Word.little c.settings.advIntervalMax ++
    [0x01, 0x00, UInt8.ofNat name.length] ++ name ++ [0x00, 0x00, 0x00, 0x00, 0x00]

def switchAdvertising (c : Core) (on : Bool) : Core :=
  if on then c.send .setDiscoverable c.discoverableParams else c.send .setNonDiscoverable []

/-- Drops every exchange in flight, the send included. -/
def resetTransfer (c : Core) : Core :=
  { c with
    endpoint := c.endpoint.reset.finishSend
    txData := []
    chunkInFlight := false
    awaitingWriteAck := false
    pending := none
    transferTimeout := c.transferTimeout.clear }

def resetMtu (c : Core) : Core :=
  { c with endpoint := { c.endpoint with
      layout := c.endpoint.layout.resetMtu c.settings.initialChunkLength } }

/-- Queues a notification; a part of a message is in flight until its completion or the timeout. -/
def notify (c : Core) (chunk : List UInt8) (ofMessage : Bool) : Core :=
  let c :=
    if ofMessage then
      { c with
        chunkInFlight := true
        transferTimeout :=
          c.transferTimeout.arm (Settings.microseconds c.settings.transferTimeout) }
    else c
  c.updateCharValue c.handles.service c.handles.notify chunk

/-- A notification never overtakes a write response that is not acknowledged. -/
def queueNotify (c : Core) (chunk : List UInt8) (ofMessage : Bool) : Core :=
  if c.awaitingWriteAck then { c with pending := some ⟨chunk, ofMessage⟩ }
  else c.notify chunk ofMessage

def poll (c : Core) : Option Nat × Core :=
  let (length, endpoint) := c.endpoint.takeComplete
  (length, { c with endpoint := endpoint })

def message (c : Core) : List UInt8 := c.endpoint.message

/-- Starts sending a message. Its further chunks follow as the controller acknowledges each. -/
def sendMessage (c : Core) (data : List UInt8) : Except SendError Unit × Core :=
  if c.connection.isConnected then
    match c.endpoint.beginSend data.length with
    | (.error error, endpoint) => (.error error, { c with endpoint := endpoint })
    | (.ok (), endpoint) =>
      if messageCapacity < data.length then
        (.error (.tooLong data.length), { c with endpoint := endpoint.finishSend, txData := [] })
      else
        match endpoint.nextChunk data with
        | (none, endpoint) => (.ok (), { c with endpoint := endpoint, txData := data })
        | (some chunk, endpoint) =>
          (.ok (), { c with endpoint := endpoint, txData := data }.queueNotify chunk true)
  else (.error (.link .notConnected), c)

/-- Turns the user's answer into the command that the current connection is told. -/
def respond (c : Core) (answer : PairingAnswer) : Core :=
  let (reply, pairing) := c.pairing.respond answer
  let c := { c with pairing := pairing }
  match reply with
  | some (.passkey code) =>
    c.send .passKeyResponse (Word.little c.connection.handle ++ Word.little32 code)
  | some (.confirm yes) =>
    c.send .confirmComparison (Word.little c.connection.handle ++ [if yes then 1 else 0])
  | none => c

def nextPairingMessage (c : Core) : Option PairingMessage × Core :=
  let (message, pairing) := c.pairing.nextMessage
  (message, { c with pairing := pairing })

end Core

end CardLink.Controller
