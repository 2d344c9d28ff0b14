import CardLink.Proofs.Controller.Initialization
import CardLink.Proofs.Controller.Outstanding

namespace CardLink

namespace Controller

structure Post where
  command : Command
  params : List UInt8
  /-- What is put together before the parameters are, with the room that there is for it. -/
  parts : List (List UInt8 × Nat)

namespace Post

def frame (post : Post) : List UInt8 :=
  Frame.packetType :: Word.little post.command.opcode ++
    UInt8.ofNat post.params.length :: post.params

/-- Nothing has to be left out, and the length byte counts all of the parameters. -/
structure Fits (post : Post) : Prop where
  counted : post.params.length ≤ 255
  room : post.params.length ≤ post.command.room
  parts : ∀ part ∈ post.parts, part.1.length ≤ part.2

theorem Fits.build {post : Post} (fits : post.Fits) :
    Frame.build post.command.opcode post.params = .ok post.frame :=
  if_neg (Nat.not_lt.mpr fits.counted)

end Post

namespace Core

variable (c : Core)

/-- The whole name, behind the flags. -/
def advDataPost : Post :=
  let data := [2, Advertising.typeFlags, Advertising.flags, UInt8.ofNat (c.name.length + 1),
    Advertising.typeLocalName] ++ c.name
  ⟨.updateAdvData, UInt8.ofNat data.length :: data, [(data, Advertising.capacity)]⟩

def scanResponsePost : Post :=
  ⟨.setScanResponse, c.scanResponseParams, [(Advertising.scanResponse Gatt.service
    c.settings.connIntervalMin c.settings.connIntervalMax, Advertising.capacity)]⟩

def namePost : Post :=
  ⟨.updateCharValue, updateParams c.handles.gapService c.handles.gapDeviceName c.name,
    [(c.name, Advertising.nameCapacity)]⟩

/-- The whole name, before what advertising leaves open. -/
def discoverablePost : Post :=
  let name := Advertising.typeLocalName :: c.name
  ⟨.setDiscoverable, [0x00] ++ Word.little c.settings.advIntervalMin ++
    Word.little c.settings.advIntervalMax ++ [0x01, 0x00, UInt8.ofNat name.length] ++ name ++
    [0x00, 0x00, 0x00, 0x00, 0x00], [(name, Advertising.capacity)]⟩

def chunkPost (chunk : List UInt8) : Post :=
  ⟨.updateCharValue, updateParams c.handles.service c.handles.notify chunk,
    [(chunk, maxChunkLength)]⟩

def advPost? : AdvStep → Option Post
  | .setAdvData => some c.advDataPost
  | .setScanResponse => some c.scanResponsePost
  | .setDeviceName => some c.namePost
  | .start => some c.discoverablePost
  | .idle | .finished => none

/-- The last step but one goes on to advertising, and the last one clears the bonds if that was
asked for. -/
def initPost? : InitStep → Option Post
  | .configureAdvertising => c.advPost? .setAdvData
  | .finished => if c.clearPairing then some ⟨.clearSecurityDb, [], []⟩ else none
  | step => step.command?.map fun command => ⟨command, c.initParams step, []⟩

def stepInitPost? (reply : List UInt8) : Option Post :=
  if c.initStep = .configureAdvertising then
    if c.advStep.next (!c.planeMode) = .finished then c.initPost? .finished
    else c.advPost? (c.advStep.next (!c.planeMode))
  else (c.learnHandles reply).initPost? c.initStep.next

def restartPost? : Option Post := c.initPost? .reset

/-- Advertising again takes new payloads if the name is new, and is only switched on otherwise. -/
def readvertisePost? : Option Post := c.advPost? c.readvertisedStep

def switchPost? (on : Bool) : Option Post :=
  if on then some c.discoverablePost else some ⟨.setNonDiscoverable, [], []⟩

def switchedPost? : Option Post :=
  if c.advRequest = some false then
    if c.connection.isConnected then c.restartPost?
    else if c.nameChanged then c.readvertisePost?
    else none
  else none

/-- Once per connection the shortest interval is asked for, when a message has gone out. -/
def intervalPost? : Option Post :=
  if ¬c.connectionUpdated ∧ c.settings.connIntervalMin < c.connection.interval then
    let supervision := UInt16.ofNat (min 65535 (c.settings.connParamTimeout.toNat / 10))
    some ⟨.updateConnection, Word.little c.connection.handle ++
      Word.little c.settings.connIntervalMin ++ Word.little c.settings.connIntervalMin ++
      Word.little c.connection.latency ++ Word.little supervision, []⟩
  else none

/-- The next chunk of a message that is still sent, or what its end asks for. -/
def notifiedPost? : Option Post :=
  if c.chunkInFlight ∧ c.endpoint.isSending then
    match (c.endpoint.nextChunk c.txData).1 with
    | some chunk => some (c.chunkPost chunk)
    | none => c.intervalPost?
  else none

def ackedPost? : Option Post :=
  if c.awaitingWriteAck then c.pending.map fun waiting => c.chunkPost waiting.chunk
  else none

def completionPost? (packet : EventPacket) : Option Post :=
  match packet.opcode with
  | none => none
  | some opcode =>
    match c.phase with
    | .initializing => if c.awaits opcode then c.stepInitPost? packet.returnParams else none
    | .configuringAdvertising =>
      if c.awaits opcode then c.advPost? (c.advStep.next c.advWanted) else none
    | .failed => none
    | .idle | .ready =>
      if opcode = Command.writeResponse.opcode then c.ackedPost?
      else if opcode = Command.updateCharValue.opcode then c.notifiedPost?
      else if opcode = Command.setNonDiscoverable.opcode ∨
          opcode = Command.setDiscoverable.opcode then
        c.switchedPost?
      else none

/-- A control reply goes out at once, unless a write response comes first. -/
def feedPost? (chunk : List UInt8) : Option Post :=
  if c.awaitingWriteAck then none
  else
    match (c.endpoint.receive chunk).1 with
    | .ok (.reply reply) => some (c.chunkPost reply)
    | .ok (.channelRequest channel) =>
      some (c.chunkPost (c.endpoint.controlHeader channel Tag.allocateChannel.byte))
    | _ => none

/-- Until an MTU has been agreed on, a larger one is asked for. -/
def subscribedPost? (on : Bool) : Option Post :=
  if on ∧ ¬c.endpoint.layout.negotiated then
    some ⟨.exchangeConfig, Word.little c.connection.handle, []⟩
  else none

/-- Connection, attribute, offset, length, value. -/
def modifiedPost? (data : List UInt8) : Option Post :=
  let attr := Word.littleAt data 2
  let length := (Word.littleAt data 6).toNat
  let value := (data.drop 8).take length
  if data.length < 8 then none
  else if attr = c.handles.notify + 2 ∧ length = 2 ∧ Word.littleAt data 4 = 0 then
    c.subscribedPost? (Word.littleAt value 0 != 0)
  else if attr = c.handles.writeCommand + 1 ∧ c.acceptsWrites ∧ value ≠ [] then c.feedPost? value
  else none

/-- Connection, attribute, length, value: all of it goes back with the permit. -/
def permitPost? (data : List UInt8) : Option Post :=
  let value := (data.drop 5).take (data[4]?.getD 0).toNat
  if data.length < 5 then none
  else
    some ⟨.writeResponse, Word.little (Word.littleAt data 0) ++
      Word.little (Word.littleAt data 2) ++ [0x00, 0x00, UInt8.ofNat value.length] ++ value, []⟩

def vendorPost? (packet : EventPacket) : Option Post :=
  let data := packet.vendorData
  if data.length < 2 ∨ Word.littleAt data 0 ≠ c.connection.handle then none
  else
    match packet.vendorCode.bind VendorEvent.ofCode? with
    | some .attributeModified => c.modifiedPost? data
    | some .writePermitRequest => permitPost? data
    | some .indication => some ⟨.confirmIndication, Word.little c.connection.handle, []⟩
    | some .procedureTimeout => c.restartPost?
    | some .pairingComplete | some .passKeyRequest | some .numericComparison
    | some .exchangeMtuResponse | some .connectionUpdateResponse | some .txPoolAvailable
    | none => none

def packetPost? (packet : EventPacket) : Option Post :=
  match packet.kind with
  | .commandComplete => c.completionPost? packet
  | .commandStatus | .leMeta _ => none
  | .hardwareError => c.restartPost?
  | .asynchronous =>
    if packet.code = EventCode.disconnectionComplete then
      if packet.params[3]?.getD 0 = reasonInstantPassed then c.restartPost?
      else c.readvertisePost?
    else if packet.code = EventCode.vendor then c.vendorPost? packet
    else none

/-- The first chunk of a message that can be sent now. -/
def messagePost? (data : List UInt8) : Option Post :=
  if c.connection.isConnected ∧ ¬c.endpoint.isSending ∧ data.length ≤ messageCapacity ∧
      ¬c.awaitingWriteAck then
    ((c.endpoint.begun data.length).nextChunk data).1.map c.chunkPost
  else none

def answerPost? (answer : PairingAnswer) : Option Post :=
  match (c.pairing.respond answer).1 with
  | some (.passkey code) =>
    some ⟨.passKeyResponse, Word.little c.connection.handle ++ Word.little32 code, []⟩
  | some (.confirm yes) =>
    some ⟨.confirmComparison, Word.little c.connection.handle ++ [if yes then 1 else 0], []⟩
  | none => none

/-- The command that an input has the link write; there is never more than one. -/
def post? : Input → Option Post
  | .beginInit => c.restartPost?
  | .packet packet => c.packetPost? packet
  | .sendMessage data => c.messagePost? data
  | .enableAdvertising on =>
    if c.ready ∧ ¬(c.nameChanged ∧ ¬on ∧ c.connection.isConnected) then c.switchPost? on else none
  | .resetPairings =>
    if c.ready then
      if c.connection.isConnected then c.restartPost? else some ⟨.clearSecurityDb, [], []⟩
    else none
  | .respond answer => c.answerPost? answer
  | .tick | .nextCommand | .commandDropped | .poll | .setDeviceName _ | .setPlaneMode _
  | .nextPairingMessage => none

end Core

end Controller

end CardLink
