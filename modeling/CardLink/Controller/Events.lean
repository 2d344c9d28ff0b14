import CardLink.Controller.Bringup
import CardLink.Requester

namespace CardLink.Controller.Core

/-- The disconnection reason after which the controller is initialised anew. -/
def reasonInstantPassed : UInt8 := 0x28

/-- Asks once per connection for the shortest interval, after a message has gone out. -/
def requestInterval (c : Core) : Core :=
  let interval := c.settings.connIntervalMin
  if ¬c.connectionUpdated ∧ interval < c.connection.interval then
    let supervision := UInt16.ofNat (min 65535 (c.settings.connParamTimeout.toNat / 10))
    { c with connectionUpdated := true }.send .updateConnection
      (Word.little c.connection.handle ++ Word.little interval ++ Word.little interval ++
        Word.little c.connection.latency ++ Word.little supervision)
  else c

/-- The message is out, or its send was cancelled. -/
def finishMessage (c : Core) : Core :=
  let aborted := !c.endpoint.isSending
  let c := { c with
    endpoint := c.endpoint.finishSend, txData := [], transferTimeout := c.transferTimeout.cancel }
  if aborted then c else c.requestInterval

def onNotifyComplete (c : Core) : Core :=
  if c.chunkInFlight then
    let c := { c with chunkInFlight := false }
    if c.endpoint.isSending then
      match c.endpoint.nextChunk c.txData with
      | (some chunk, endpoint) => { c with endpoint := endpoint }.notify chunk true
      | (none, endpoint) => { c with endpoint := endpoint }.finishMessage
    else c.finishMessage
  else c

def onWriteAck (c : Core) : Core :=
  if c.awaitingWriteAck then
    let c := { c with awaitingWriteAck := false }
    match c.pending with
    | some waiting => { c with pending := none }.notify waiting.chunk waiting.ofMessage
    | none => c
  else c

/-- Advertising has been switched. Switching it off while connected drops the connection. -/
def onAdvertisingSwitched (c : Core) : Core :=
  let disabling := c.advRequest == some false
  let c := { c with advRequest := none }
  if c.connection.isConnected then
    if disabling then { c with pairing := c.pairing.close .failed }.beginInit else c
  else if disabling then
    let c := { c with advertising := false }
    if c.nameChanged then c.startAdvertising else c
  else { c with advertising := true }

/-- A completed command moves the running sequence on, or means something by itself. -/
def onCommandComplete (c : Core) (packet : EventPacket) : Core :=
  match packet.opcode with
  | none => c
  | some opcode =>
    match c.phase with
    | .initializing => if c.awaits opcode then c.stepInit packet.returnParams else c
    | .configuringAdvertising => if c.awaits opcode then c.stepAdvertising else c
    | .failed => c
    | .idle | .ready =>
      if opcode = Command.writeResponse.opcode then c.onWriteAck
      else if opcode = Command.updateCharValue.opcode then c.onNotifyComplete
      else if opcode = Command.setNonDiscoverable.opcode ∨
          opcode = Command.setDiscoverable.opcode then
        c.onAdvertisingSwitched
      else c

/-- A client has connected; the parameters of the connection start at this position. -/
def onConnected (c : Core) (params : List UInt8) (position : Nat) : Core :=
  let c := { c with
    connection := {
      handle := Word.littleAt params 2
      interval := Word.littleAt params position
      latency := Word.littleAt params (position + 2)
      supervisionTimeout := Word.littleAt params (position + 4) } }.resetMtu.resetTransfer
  { c with notifications := false, advertising := false, connectionUpdated := false }

def onConnectionUpdate (c : Core) (params : List UInt8) : Core :=
  { c with connection := { c.connection with
      handle := Word.littleAt params 2
      interval := Word.littleAt params 4
      latency := Word.littleAt params 6
      supervisionTimeout := Word.littleAt params 8 } }

def onDataLength (c : Core) (params : List UInt8) : Core :=
  if Word.littleAt params 1 = c.connection.handle then
    { c with connection := { c.connection with
        maxTxOctets := Word.littleAt params 3
        maxTxTime := Word.littleAt params 5
        maxRxOctets := Word.littleAt params 7
        maxRxTime := Word.littleAt params 9 } }
  else c

def onPhyUpdate (c : Core) (params : List UInt8) : Core :=
  if Word.littleAt params 2 = c.connection.handle then
    { c with connection := { c.connection with
        txPhy := params[4]?.getD 0
        rxPhy := params[5]?.getD 0 } }
  else c

/-- The enhanced form of a connection carries two more addresses before its parameters. -/
def onLeMeta (c : Core) (params : List UInt8) : Core :=
  match params.head?.bind LeEvent.ofCode? with
  | some .connectionComplete => if params[1]?.getD 0xFF = 0 then c.onConnected params 12 else c
  | some .enhancedConnectionComplete =>
    if params[1]?.getD 0xFF = 0 then c.onConnected params 24 else c
  | some .connectionUpdateComplete => c.onConnectionUpdate params
  | some .dataLengthChange => c.onDataLength params
  | some .phyUpdateComplete => c.onPhyUpdate params
  | none => c

def onDisconnect (c : Core) (params : List UInt8) : Core :=
  let c := { c with
    connection := {}, advertising := false, notifications := false }.resetTransfer
  let c := { c with pairing := c.pairing.close .failed }
  if params[3]?.getD 0 = reasonInstantPassed then c.beginInit else c.startAdvertising

def onEncryptionChange (c : Core) (params : List UInt8) : Core :=
  if Word.littleAt params 1 = c.connection.handle then
    { c with connection := { c.connection with encrypted := params[3]?.getD 0 != 0 } }
  else c

def feed (c : Core) (chunk : List UInt8) : Core :=
  match c.endpoint.receive chunk with
  | (.ok (.reply reply), endpoint) => { c with endpoint := endpoint }.queueNotify reply false
  | (.ok (.channelRequest channel), endpoint) =>
    { c with endpoint := endpoint }.queueNotify
      (endpoint.controlHeader channel Tag.allocateChannel.byte) false
  | (.ok .reset, endpoint) =>
    let c := { c with endpoint := endpoint }
    if c.chunkInFlight then c
    else { c with
      endpoint := c.endpoint.finishSend, txData := [], transferTimeout := c.transferTimeout.cancel }
  | (_, endpoint) => { c with endpoint := endpoint }

/-- The host may write: it has subscribed, and the link is encrypted. -/
def acceptsWrites (c : Core) : Bool := c.notifications && c.connection.encrypted

/-- The host has switched notifications; the first time, a larger MTU is asked for. -/
def onSubscription (c : Core) (on : Bool) : Core :=
  let c := { c with notifications := on }
  if on ∧ ¬c.endpoint.layout.negotiated then
    c.send .exchangeConfig (Word.little c.connection.handle)
  else c

/-- Connection, attribute, offset, length, value. -/
def onAttributeModified (c : Core) (data : List UInt8) : Core :=
  if data.length < 8 then c
  else
    let attr := Word.littleAt data 2
    let offset := Word.littleAt data 4
    let length := (Word.littleAt data 6).toNat
    let value := (data.drop 8).take length
    if attr = c.handles.notify + 2 ∧ length = 2 ∧ offset = 0 then
      c.onSubscription (Word.littleAt value 0 != 0)
    else if attr = c.handles.writeCommand + 1 ∧ c.acceptsWrites ∧ value ≠ [] then c.feed value
    else c

/-- Connection, attribute, length, value. The write is answered first; a reply to it waits. -/
def onWritePermit (c : Core) (data : List UInt8) : Core :=
  if data.length < 5 then c
  else
    let attr := Word.littleAt data 2
    let value := (data.drop 5).take (data[4]?.getD 0).toNat
    let c := { c with awaitingWriteAck := true }
    let c :=
      if attr = c.handles.write + 1 ∧ c.acceptsWrites ∧ value ≠ [] then c.feed value else c
    c.send .writeResponse (Word.little (Word.littleAt data 0) ++ Word.little attr ++
      [0x00, 0x00, UInt8.ofNat value.length] ++ value)

def setAttMtu (c : Core) (mtu : UInt16) : Core :=
  { c with endpoint := { c.endpoint with layout := c.endpoint.layout.setAttMtu mtu.toNat } }

/-- Vendor events name their connection first; those of another connection are passed over. -/
def onVendor (c : Core) (packet : EventPacket) : Core :=
  let data := packet.vendorData
  if data.length < 2 ∨ Word.littleAt data 0 ≠ c.connection.handle then c
  else
    match packet.vendorCode.bind VendorEvent.ofCode? with
    | some .pairingComplete =>
      { c with pairing := c.pairing.complete (data[2]?.getD 0xFF) (data[3]?.getD 0) }
    | some .passKeyRequest => { c with pairing := c.pairing.requestPasskey }
    | some .numericComparison =>
      { c with pairing :=
          c.pairing.requestComparison (Word.join32 (Word.littleAt data 4) (Word.littleAt data 2)) }
    | some .attributeModified => c.onAttributeModified data
    | some .exchangeMtuResponse => c.setAttMtu (Word.littleAt data 2)
    | some .writePermitRequest => c.onWritePermit data
    | some .indication => c.send .confirmIndication (Word.little c.connection.handle)
    | some .procedureTimeout => { c with pairing := c.pairing.close .failed }.beginInit
    | some .connectionUpdateResponse | some .txPoolAvailable | none => c

def onPacket (c : Core) (packet : EventPacket) : Core :=
  match packet.kind with
  | .commandComplete => c.onCommandComplete packet
  | .commandStatus => c
  | .leMeta _ => c.onLeMeta packet.params
  | .hardwareError => c.beginInit
  | .asynchronous =>
    if packet.code = EventCode.disconnectionComplete then c.onDisconnect packet.params
    else if packet.code = EventCode.encryptionChange then c.onEncryptionChange packet.params
    else if packet.code = EventCode.vendor then c.onVendor packet
    else c

/-- The packet sets the MTU of the current connection, and no chunk length is allowed. -/
def mtuFault (c : Core) (packet : EventPacket) : Bool :=
  packet.vendorCode.bind VendorEvent.ofCode? == some .exchangeMtuResponse &&
    decide (2 ≤ packet.vendorData.length) &&
    Word.littleAt packet.vendorData 0 == c.connection.handle &&
    decide (c.endpoint.layout.ceiling < 6)

def onPacket? (c : Core) (packet : EventPacket) : Except Fault Core :=
  if c.mtuFault packet then .error .ceilingBelowFirstChunk else .ok (c.onPacket packet)

/-- A notification without acknowledgement in time drops every exchange. -/
def onTick (c : Core) : Core :=
  let c := { c with
    transferTimeout := c.transferTimeout.tick (Settings.microseconds c.settings.tick) }
  if c.transferTimeout.phase = .expired then c.resetTransfer else c

/-- A fault ends the link: later events do not undo it. -/
def listener : Listener (Except Fault Core) where
  packet packet c := c.bind (·.onPacket? packet)
  tick c := c.map onTick

end CardLink.Controller.Core
