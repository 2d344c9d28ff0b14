import CardLink.Word

namespace CardLink.Advertising

def capacity : Nat := 31

def typeFlags : UInt8 := 0x01
def typeService : UInt8 := 0x06
def typeLocalName : UInt8 := 0x09
def typeConnectionInterval : UInt8 := 0x12

/-- General discoverable, low energy only. -/
def flags : UInt8 := 0x06

/-- Longest device name; also the size of the device-name characteristic. -/
def nameCapacity : Nat := 20

/-- The leading characters whose bytes fit; a character is kept whole or not at all, and none
after the first that does not fit is kept. -/
def fittingBytes : Nat → List Char → List UInt8
  | _, [] => []
  | room, c :: rest =>
    let bytes := String.utf8EncodeChar c
    if bytes.length ≤ room then bytes ++ fittingBytes (room - bytes.length) rest else []

/-- A device name as the bytes of the characters that fit. -/
def clipName (name : String) : List UInt8 := fittingBytes nameCapacity name.toList

def utf8 (text : String) : List UInt8 := text.toList.flatMap String.utf8EncodeChar

/-- The flags, then the name, cut at the byte where the payload is full. -/
def payload (name : List UInt8) : List UInt8 :=
  let shown := name.take (capacity - 5)
  [2, typeFlags, flags, UInt8.ofNat (shown.length + 1), typeLocalName] ++ shown

/-- The service, then the preferred bounds of the connection interval. -/
def scanResponse (service : List UInt8) (intervalMin intervalMax : UInt16) : List UInt8 :=
  [UInt8.ofNat (service.length + 1), typeService] ++ service ++
    [5, typeConnectionInterval] ++ Word.little intervalMin ++ Word.little intervalMax

def localName (name : List UInt8) : List UInt8 := typeLocalName :: name.take (capacity - 1)

end CardLink.Advertising
