import CardLink.Packet.Code

namespace CardLink.Controller

inductive Phase where
  | idle
  | initializing
  | configuringAdvertising
  | ready
  /-- A command of a sequence could not be written; only a new initialisation leaves this. -/
  | failed
  deriving DecidableEq, Repr

inductive InitStep where
  | idle
  | reset
  | staticAddress
  | gattInit
  | gapInit
  | ioCapability
  | authRequirements
  | addService
  | addNotifyChar
  | addWriteChar
  | addWriteCommandChar
  | txPower
  | configureAdvertising
  | finished
  deriving DecidableEq, Repr

def InitStep.next : InitStep → InitStep
  | idle => reset
  | reset => staticAddress
  | staticAddress => gattInit
  | gattInit => gapInit
  | gapInit => ioCapability
  | ioCapability => authRequirements
  | authRequirements => addService
  | addService => addNotifyChar
  | addNotifyChar => addWriteChar
  | addWriteChar => addWriteCommandChar
  | addWriteCommandChar => txPower
  | txPower => configureAdvertising
  | configureAdvertising | finished => finished

/-- The command that a step sends when it is entered, and whose completion ends it. -/
def InitStep.command? : InitStep → Option Command
  | reset => some .reset
  | staticAddress => some .writeConfig
  | gattInit => some .gattInit
  | gapInit => some .gapInit
  | ioCapability => some .setIoCapability
  | authRequirements => some .setAuthRequirement
  | addService => some .addService
  | addNotifyChar | addWriteChar | addWriteCommandChar => some .addChar
  | txPower => some .setTxPower
  | idle | configureAdvertising | finished => none

/-- The configuration of advertising, as the last step but one of the initialisation or after a
disconnection. -/
inductive AdvStep where
  | idle
  | setAdvData
  | setScanResponse
  | setDeviceName
  | start
  | finished
  deriving DecidableEq, Repr

/-- Advertising is not started where it is not wanted. -/
def AdvStep.next (wanted : Bool) : AdvStep → AdvStep
  | idle => setAdvData
  | setAdvData => setScanResponse
  | setScanResponse => setDeviceName
  | setDeviceName => if wanted then start else finished
  | start | finished => finished

def AdvStep.command? : AdvStep → Option Command
  | setAdvData => some .updateAdvData
  | setScanResponse => some .setScanResponse
  | setDeviceName => some .updateCharValue
  | start => some .setDiscoverable
  | idle | finished => none

end CardLink.Controller
