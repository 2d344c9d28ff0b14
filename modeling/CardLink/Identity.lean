import CardLink.Hex
import CardLink.Word

namespace CardLink.Identity

/-- Both halves of the serial number, joined by exclusive or. -/
def uid (serial : List UInt8) : UInt32 :=
  Word.join32 (Word.littleAt serial 2) (Word.littleAt serial 0) ^^^
    Word.join32 (Word.littleAt serial 6) (Word.littleAt serial 4)

def legacyName (uid : UInt32) : String :=
  "Ledger(" ++ String.ofList (Hex.digits 8 uid.toNat) ++ ")"

def legacyAddress (uid : UInt32) : List UInt8 := Word.little32 uid ++ [0x11, 0x3a]

/-- One shift of the remainder, most significant bit first. -/
def crcShift (crc : UInt16) : UInt16 :=
  if crc &&& 0x8000 = 0 then crc <<< 1 else (crc <<< 1) ^^^ 0x1021

def crcByte (crc : UInt16) (byte : UInt8) : UInt16 :=
  Nat.repeat crcShift 8 (crc ^^^ UInt16.ofNat (byte.toNat * 256))

/-- The 16-bit CCITT checksum that starts from all ones. -/
def checksum (bytes : List UInt8) : UInt16 := bytes.foldl crcByte 0xFFFF

/-- The random static address on the newer controller: a checksum of each half of the serial
number, and an ending whose two top bits are set. -/
def staticAddress (serial : List UInt8) : List UInt8 :=
  Word.little (checksum (serial.take 4)) ++ Word.little (checksum (serial.drop 4)) ++ [0xf1, 0xde]

end CardLink.Identity
