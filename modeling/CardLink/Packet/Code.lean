namespace CardLink

inductive Command where
  | disconnect
  | reset
  | setScanResponse
  | writeConfig
  | setTxPower
  | setNonDiscoverable
  | setDiscoverable
  | setIoCapability
  | setAuthRequirement
  | passKeyResponse
  | gapInit
  | updateAdvData
  | clearSecurityDb
  | confirmComparison
  | gattInit
  | addService
  | addChar
  | updateCharValue
  | exchangeConfig
  | confirmIndication
  | writeResponse
  | updateConnection
  deriving DecidableEq, Repr

def Command.opcode : Command → UInt16
  | disconnect => 0x0406
  | reset => 0x0C03
  | setScanResponse => 0x2009
  | writeConfig => 0xFC0C
  | setTxPower => 0xFC0F
  | setNonDiscoverable => 0xFC81
  | setDiscoverable => 0xFC83
  | setIoCapability => 0xFC85
  | setAuthRequirement => 0xFC86
  | passKeyResponse => 0xFC88
  | gapInit => 0xFC8A
  | updateAdvData => 0xFC8E
  | clearSecurityDb => 0xFC94
  | confirmComparison => 0xFCA5
  | gattInit => 0xFD01
  | addService => 0xFD02
  | addChar => 0xFD04
  | updateCharValue => 0xFD06
  | exchangeConfig => 0xFD0B
  | confirmIndication => 0xFD25
  | writeResponse => 0xFD26
  | updateConnection => 0xFD81

/-- The opcode that stands for every opcode. -/
def anyOpcode : UInt16 := 0xFFFF

/-- A group of six bits and a command of ten. -/
def packOpcode (group : UInt8) (command : UInt16) : UInt16 :=
  UInt16.ofNat (group.toNat * 1024 + command.toNat % 1024)

/-- The status of a notification that found no free buffer. -/
def statusInsufficientResources : UInt8 := 0x64

namespace EventCode

def disconnectionComplete : UInt8 := 0x05
def encryptionChange : UInt8 := 0x08
def commandComplete : UInt8 := 0x0E
def commandStatus : UInt8 := 0x0F
def hardwareError : UInt8 := 0x10
def leMeta : UInt8 := 0x3E
def vendor : UInt8 := 0xFF

end EventCode

/-- The first parameter of an LE meta event. -/
inductive LeEvent where
  | connectionComplete
  | connectionUpdateComplete
  | dataLengthChange
  | enhancedConnectionComplete
  | phyUpdateComplete
  deriving DecidableEq, Repr

def LeEvent.ofCode? (code : UInt8) : Option LeEvent :=
  if code = 0x01 then some connectionComplete
  else if code = 0x03 then some connectionUpdateComplete
  else if code = 0x07 then some dataLengthChange
  else if code = 0x0A then some enhancedConnectionComplete
  else if code = 0x0C then some phyUpdateComplete
  else none

inductive VendorEvent where
  | pairingComplete
  | passKeyRequest
  | numericComparison
  | connectionUpdateResponse
  | attributeModified
  | procedureTimeout
  | exchangeMtuResponse
  | indication
  | writePermitRequest
  | txPoolAvailable
  deriving DecidableEq, Repr

def VendorEvent.ofCode? (code : UInt16) : Option VendorEvent :=
  if code = 0x0401 then some pairingComplete
  else if code = 0x0402 then some passKeyRequest
  else if code = 0x0409 then some numericComparison
  else if code = 0x0800 then some connectionUpdateResponse
  else if code = 0x0C01 then some attributeModified
  else if code = 0x0C02 then some procedureTimeout
  else if code = 0x0C03 then some exchangeMtuResponse
  else if code = 0x0C0E then some indication
  else if code = 0x0C13 then some writePermitRequest
  else if code = 0x0C16 then some txPoolAvailable
  else none

end CardLink
