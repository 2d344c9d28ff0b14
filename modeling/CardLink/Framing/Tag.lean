namespace CardLink

inductive LinkKind where
  /-- The legacy BLE controller: a fixed chunk length, errors answered on the wire. -/
  | legacy
  /-- The newer BLE controller: the chunk length follows the negotiated MTU. -/
  | negotiated
  /-- USB HID reports: a channel before the tag, every report padded. -/
  | usb
  deriving DecidableEq, Repr

/-- The tag byte that opens every chunk body. -/
inductive Tag where
  | version
  /-- The host starts over: reception and send are dropped. -/
  | init
  | allocateChannel
  | echo
  | abort
  | apdu
  | mtu
  deriving DecidableEq, Repr

/-- Starting over and allocating a channel share a byte; no kind of link knows both. -/
def Tag.byte : Tag → UInt8
  | version => 0x00
  | init => 0x01
  | allocateChannel => 0x01
  | echo => 0x02
  | abort => 0x03
  | apdu => 0x05
  | mtu => 0x08

namespace LinkKind

def tags : LinkKind → List Tag
  | legacy => [.version, .init, .echo, .apdu]
  | negotiated => [.version, .allocateChannel, .echo, .abort, .apdu, .mtu]
  | usb => [.version, .allocateChannel, .echo, .apdu]

def classify (kind : LinkKind) (byte : UInt8) : Option Tag :=
  kind.tags.find? fun tag => tag.byte == byte

/-- Channel bytes in front of the tag. -/
def channelWidth : LinkKind → Nat
  | legacy | negotiated => 0
  | usb => 2

def strictSequence : LinkKind → Bool
  | legacy => true
  | negotiated | usb => false

def ignoresUnknown : LinkKind → Bool
  | negotiated => true
  | legacy | usb => false

/-- Outgoing chunks are filled with zeros up to the chunk length. -/
def padded : LinkKind → Bool
  | usb => true
  | legacy | negotiated => false

/-- The tag of an error reply, on the one kind of link that reports errors. -/
def errorTag : LinkKind → Option UInt8
  | legacy => some 0x0E
  | negotiated | usb => none

/-- What follows the tag in a version reply. -/
def versionBody : LinkKind → List UInt8
  | legacy => [0x00, 0x00, 0x00, 0x04, 0x00, 0x00, 0x00, 0x00]
  | negotiated | usb => [0x00, 0x00, 0x00, 0x00]

/-- Header bytes of a message chunk after the channel: the first one carries the total length. -/
def headerLength (sequence : Nat) : Nat := if sequence = 0 then 5 else 3

end LinkKind

end CardLink
