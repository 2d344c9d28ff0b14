namespace CardLink.Gatt

/-- Identifiers are in the byte order of the wire. -/
def legacyService : List UInt8 :=
  [0x66, 0x9a, 0x0c, 0x20, 0x00, 0x08, 0x96, 0x9e, 0xe2, 0x11, 0x9e, 0xb1, 0xe0, 0xf2, 0x73, 0xd9]

/-- Device to host. -/
def legacyTx : List UInt8 :=
  [0x66, 0x9a, 0x0c, 0x20, 0x00, 0x08, 0x96, 0x9e, 0xe2, 0x11, 0x9e, 0xb1, 0xe1, 0xf2, 0x73, 0xd9]

/-- Host to device. -/
def legacyRx : List UInt8 :=
  [0x66, 0x9a, 0x0c, 0x20, 0x00, 0x08, 0x96, 0x9e, 0xe2, 0x11, 0x9e, 0xb1, 0xe2, 0xf2, 0x73, 0xd9]

def service : List UInt8 :=
  [0x72, 0x65, 0x67, 0x64, 0x65, 0x4c, 0x00, 0x00, 0x04, 0x00, 0x97, 0x2c, 0x00, 0x34, 0xd6, 0x13]

def notifyChar : List UInt8 :=
  [0x72, 0x65, 0x67, 0x64, 0x65, 0x4c, 0x01, 0x00, 0x04, 0x00, 0x97, 0x2c, 0x00, 0x34, 0xd6, 0x13]

def writeChar : List UInt8 :=
  [0x72, 0x65, 0x67, 0x64, 0x65, 0x4c, 0x02, 0x00, 0x04, 0x00, 0x97, 0x2c, 0x00, 0x34, 0xd6, 0x13]

def writeCommandChar : List UInt8 :=
  [0x72, 0x65, 0x67, 0x64, 0x65, 0x4c, 0x03, 0x00, 0x04, 0x00, 0x97, 0x2c, 0x00, 0x34, 0xd6, 0x13]

/-- The identifier that follows has sixteen bytes. -/
def longIdentifier : UInt8 := 0x02

def primaryService : UInt8 := 0x01

def propWriteWithoutResponse : UInt8 := 0x04
def propWrite : UInt8 := 0x08
def propNotify : UInt8 := 0x10

def permNone : UInt8 := 0x00
def permAuthenticatedWrite : UInt8 := 0x08

def maskNone : UInt8 := 0x00
def maskAttributeWrite : UInt8 := 0x01

/-- The host's write waits until the device answers it. -/
def maskWriteAndWait : UInt8 := 0x02

def encryptionKeySize : UInt8 := 16
def variableLength : UInt8 := 0x01

end CardLink.Gatt
