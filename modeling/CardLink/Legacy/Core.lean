import CardLink.Countdown
import CardLink.Framing.Endpoint
import CardLink.Requester

namespace CardLink.Legacy

/-- Attribute handles that the controller gave out during setup. -/
structure Handles where
  gapService : UInt16 := 0
  gapDeviceName : UInt16 := 0
  gapAppearance : UInt16 := 0
  service : UInt16 := 0
  tx : UInt16 := 0
  rx : UInt16 := 0
  deriving DecidableEq, Repr

inductive Action where
  | notify (chunk : List UInt8)
  | writeResponse (connection attr : UInt16) (data : List UInt8)
  | powerCycle
  deriving DecidableEq, Repr

/-- Actions that may wait; further ones are lost. -/
def actionCapacity : Nat := 4

/-- Events may arrive while a command is outstanding, so whatever needs a command of its own is
queued as an action and performed later. -/
structure Core where
  endpoint : Endpoint .legacy
  handles : Handles := {}
  connection : Option UInt16 := none
  /-- The client has subscribed to notifications. -/
  established : Bool := false
  /-- A notification buffer has become free since the flag was last cleared. -/
  txPoolAvailable : Bool := false
  connectTimeout : Countdown := {}
  /-- Microseconds from a connection to its first message. -/
  connectLimit : Nat
  /-- Microseconds between two ticks. -/
  tick : Nat
  actions : List Action := []
  deriving DecidableEq, Repr

namespace Core

def create (settings : Settings) : Core where
  endpoint := { layout := .legacy settings.legacyChunkLength }
  connectLimit := Settings.microseconds settings.connectionTimeout
  tick := Settings.microseconds settings.tick

def push (c : Core) (action : Action) : Core :=
  if c.actions.length < actionCapacity then { c with actions := c.actions ++ [action] } else c

def nextAction (c : Core) : Option Action × Core :=
  match c.actions with
  | [] => (none, c)
  | action :: rest => (some action, { c with actions := rest })

def resetLink (c : Core) : Core :=
  { c with
    connection := none
    established := false
    txPoolAvailable := false
    connectTimeout := c.connectTimeout.clear
    endpoint := c.endpoint.reset
    actions := [] }

def restartLink (c : Core) : Core := c.resetLink.push .powerCycle

def onConnected (c : Core) (handle : UInt16) : Core :=
  { c with
    connection := some handle
    established := false
    connectTimeout := c.connectTimeout.arm c.connectLimit }

def onLeMeta (c : Core) (params : List UInt8) : Core :=
  match params with
  | code :: status :: low :: high :: _ =>
    if LeEvent.ofCode? code = some .connectionComplete ∧ status = 0 then
      c.onConnected (Word.join high low)
    else c
  | _ => c

/-- Takes in one chunk of the host: a reply becomes a notification, and so does an error reply. -/
def feed (c : Core) (chunk : List UInt8) : Core :=
  match c.endpoint.receive chunk with
  | (.ok (.reply reply), endpoint) => { c with endpoint := endpoint }.push (.notify reply)
  | (.ok (.complete _), endpoint) =>
    { c with endpoint := endpoint, connectTimeout := c.connectTimeout.cancel }
  | (.ok _, endpoint) => { c with endpoint := endpoint }
  | (.error error, endpoint) =>
    match endpoint.errorReply error with
    | none => { c with endpoint := endpoint }
    | some reply =>
      match endpoint.queueReply reply with
      | (some reply, endpoint) => { c with endpoint := endpoint }.push (.notify reply)
      | (none, endpoint) => { c with endpoint := endpoint }

def subscription : List UInt8 := [0x01, 0x00]

/-- Connection, attribute, length, offset, value. -/
def onAttributeModified (c : Core) (data : List UInt8) : Core :=
  match data with
  | _ :: _ :: low :: high :: length :: _ :: _ :: rest =>
    if Word.join high low = c.handles.tx + 2 ∧ rest.take length.toNat = subscription then
      { c with established := true }
    else c
  | _ => c

/-- Connection, attribute, length, value. The client waits for the response, whatever became of
the value. -/
def onWritePermit (c : Core) (data : List UInt8) : Core :=
  match data with
  | connLow :: connHigh :: attrLow :: attrHigh :: length :: rest =>
    let attr := Word.join attrHigh attrLow
    let value := rest.take length.toNat
    let c := if attr = c.handles.rx + 1 ∧ c.established then c.feed value else c
    c.push (.writeResponse (Word.join connHigh connLow) attr (value.take maxChunkLength))
  | _ => c

def onVendor (c : Core) (packet : EventPacket) : Core :=
  match packet.vendorCode.bind VendorEvent.ofCode? with
  | some .attributeModified => c.onAttributeModified packet.vendorData
  | some .writePermitRequest => c.onWritePermit packet.vendorData
  | some .txPoolAvailable => { c with txPoolAvailable := true }
  | _ => c

def onPacket (c : Core) (packet : EventPacket) : Core :=
  if packet.code = EventCode.disconnectionComplete then c.restartLink
  else if packet.code = EventCode.leMeta then c.onLeMeta packet.params
  else if packet.code = EventCode.vendor then c.onVendor packet
  else c

/-- A connection without a message in time is given up. -/
def onTick (c : Core) : Core :=
  let c := { c with connectTimeout := c.connectTimeout.tick c.tick }
  if c.connectTimeout.phase = .expired then c.restartLink else c

def listener : Listener Core where
  packet packet c := c.onPacket packet
  tick c := c.onTick

end Core

end CardLink.Legacy
