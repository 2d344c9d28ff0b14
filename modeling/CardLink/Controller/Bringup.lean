import CardLink.Controller.Core

namespace CardLink.Controller.Core

def peripheralRole : UInt8 := 0x01

/-- The device shows a number and has a yes and a no. -/
def displayYesNo : UInt8 := 0x01

def serviceRecords : UInt8 := 9

def minKeySize : UInt8 := 8

def randomAddress : UInt8 := 0x01

/-- Where the controller keeps the random static address. -/
def addressOffset : UInt8 := 0x2E

/-- Bonding and protection against a man in the middle, secure connections optional, no fixed
pin, a random identity address. -/
def authParams : List UInt8 :=
  [0x01, 0x01, 0x01, 0x00, minKeySize, Gatt.encryptionKeySize, 0x01, 0x00, 0x00, 0x00, 0x00,
    randomAddress]

def serviceParams : List UInt8 :=
  Gatt.longIdentifier :: Gatt.service ++ [Gatt.primaryService, serviceRecords]

def charParams (c : Core) (identifier : List UInt8) (property mask : UInt8) : List UInt8 :=
  Word.little c.handles.service ++ Gatt.longIdentifier :: identifier ++
    Word.little (UInt16.ofNat c.settings.maxMtu.toNat) ++
    [property, Gatt.permAuthenticatedWrite, mask, Gatt.encryptionKeySize, Gatt.variableLength]

def advDataParams (c : Core) : List UInt8 :=
  let data := Advertising.payload c.name
  UInt8.ofNat data.length :: data

/-- The scan response in the fixed room that its command has for it. -/
def scanResponseParams (c : Core) : List UInt8 :=
  let data := Advertising.scanResponse Gatt.service c.settings.connIntervalMin
    c.settings.connIntervalMax
  UInt8.ofNat data.length :: data ++ List.replicate (Advertising.capacity - data.length) 0

def leaveAdvStep (c : Core) : Core :=
  match c.advStep with
  | .idle =>
    { c with connection := { c.connection with handle := noConnection }, advertising := false }
  | .start => { c with advertising := true }
  | .setAdvData | .setScanResponse | .setDeviceName | .finished => c

def advParams (c : Core) : AdvStep → List UInt8
  | .setAdvData => c.advDataParams
  | .setScanResponse => c.scanResponseParams
  | .setDeviceName => updateParams c.handles.gapService c.handles.gapDeviceName c.name
  | .start => c.discoverableParams
  | .idle | .finished => []

def enterAdvStep (c : Core) : Core :=
  let c := c.sendStep c.advStep.command? (c.advParams c.advStep)
  if c.advStep = .finished ∧ c.phase = .configuringAdvertising then { c with phase := .ready }
  else c

def stepAdvertising (c : Core) : Core :=
  let c := c.leaveAdvStep
  { c with advStep := c.advStep.next c.advWanted }.enterAdvStep

/-- The handles that the completion of the current step gives out, if they are all there. -/
def learnHandles (c : Core) (reply : List UInt8) : Core :=
  match c.initStep with
  | .gapInit =>
    if 7 ≤ reply.length then
      { c with handles := { c.handles with
          gapService := Word.littleAt reply 1
          gapDeviceName := Word.littleAt reply 3
          gapAppearance := Word.littleAt reply 5 } }
    else c
  | .addService =>
    if 3 ≤ reply.length then
      { c with handles := { c.handles with service := Word.littleAt reply 1 } }
    else c
  | .addNotifyChar =>
    if 3 ≤ reply.length then
      { c with handles := { c.handles with notify := Word.littleAt reply 1 } }
    else c
  | .addWriteChar =>
    if 3 ≤ reply.length then
      { c with handles := { c.handles with write := Word.littleAt reply 1 } }
    else c
  | .addWriteCommandChar =>
    if 3 ≤ reply.length then
      { c with handles := { c.handles with writeCommand := Word.littleAt reply 1 } }
    else c
  | _ => c

/-- The end of the initialisation: bonds are cleared if that was asked for. -/
def finishInit (c : Core) : Core :=
  let c :=
    if c.clearPairing then { c with clearPairing := false }.send .clearSecurityDb [] else c
  { c with ready := true, phase := .ready }

def initParams (c : Core) : InitStep → List UInt8
  | .staticAddress => [addressOffset, 6] ++ c.address
  | .gapInit => [peripheralRole, 0x00, UInt8.ofNat Advertising.nameCapacity]
  | .ioCapability => [displayYesNo]
  | .authRequirements => authParams
  | .addService => serviceParams
  | .addNotifyChar => c.charParams Gatt.notifyChar Gatt.propNotify Gatt.maskNone
  | .addWriteChar => c.charParams Gatt.writeChar Gatt.propWrite Gatt.maskWriteAndWait
  | .addWriteCommandChar =>
    c.charParams Gatt.writeCommandChar Gatt.propWriteWithoutResponse Gatt.maskAttributeWrite
  | .txPower => [0x01, c.settings.txPowerLevel]
  | .idle | .reset | .gattInit | .configureAdvertising | .finished => []

/-- The last step but one goes through all those of advertising. -/
def enterInitStep (c : Core) : Core :=
  match c.initStep with
  | .configureAdvertising =>
    { c with awaited := none, advStep := .idle, advWanted := !c.planeMode }.stepAdvertising
  | .finished => c.finishInit
  | step => c.sendStep step.command? (c.initParams step)

def nextInitStep (c : Core) : Core := { c with initStep := c.initStep.next }.enterInitStep

/-- From one initialisation step to the next; the last one runs the whole of advertising. -/
def stepInit (c : Core) (reply : List UInt8) : Core :=
  if c.initStep = .configureAdvertising then
    let c := { c with advWanted := !c.planeMode }.stepAdvertising
    if c.advStep = .finished then c.nextInitStep else c
  else (c.learnHandles reply).nextInitStep

/-- Starts over from the reset of the controller. A request to clear the bonds is kept. -/
def beginInit (c : Core) : Core :=
  let c := { c with
    ready := false
    phase := .initializing
    initStep := .idle
    advStep := .idle
    awaited := none
    advRequest := none
    advertising := false
    handles := {}
    connection := {}
    connectionUpdated := false
    notifications := false }.resetTransfer.resetMtu
  { c with outbox := [] }.stepInit []

/-- Advertises again after a disconnection; only a device with a new name builds its payloads
again. -/
def startAdvertising (c : Core) : Core :=
  { c with
    phase := .configuringAdvertising
    advStep := if c.nameChanged then .idle else .setDeviceName
    nameChanged := false
    awaited := none
    advWanted := !c.planeMode }.stepAdvertising

/-- Asks for advertising to be switched. A renamed device that is connected waits for the
disconnection instead of switching off. -/
def enableAdvertising (c : Core) (on : Bool) : Core :=
  if c.ready then
    if c.nameChanged ∧ ¬on ∧ c.connection.isConnected then { c with nameChanged := false }
    else { c with advRequest := some on }.switchAdvertising on
  else c

def setDeviceName (c : Core) (name : String) : Core :=
  { c with name := Advertising.clipName name, nameChanged := true }

def setPlaneMode (c : Core) (on : Bool) : Core := { c with planeMode := on }

/-- Forgets every bonded host, while connected by way of a new initialisation. -/
def resetPairings (c : Core) : Core :=
  if c.ready then
    if c.connection.isConnected then { c with clearPairing := true }.beginInit
    else c.send .clearSecurityDb []
  else c

end CardLink.Controller.Core
