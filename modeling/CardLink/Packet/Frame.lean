import CardLink.Error
import CardLink.Packet.Code
import CardLink.Word

namespace CardLink.Frame

def packetType : UInt8 := 0x01

/-- The longest frame: the header and 255 parameters. -/
def maxLength : Nat := 4 + 255

/-- Refuses more parameters than the length byte can count. -/
def build (opcode : UInt16) (params : List UInt8) : Except CommandError (List UInt8) :=
  if 255 < params.length then .error .malformed
  else .ok (packetType :: Word.little opcode ++ UInt8.ofNat params.length :: params)

def opcode (frame : List UInt8) : UInt16 := Word.littleAt frame 1

end CardLink.Frame
