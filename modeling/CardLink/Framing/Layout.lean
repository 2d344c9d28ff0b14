import CardLink.Settings
import CardLink.Framing.Session

namespace CardLink

/-- The chunk length of a link, fixed or negotiated. -/
structure Layout (kind : LinkKind) where
  chunkLength : Nat
  /-- No chunk is ever longer. -/
  ceiling : Nat := maxChunkLength
  negotiated : Bool := false
  deriving DecidableEq, Repr

namespace Layout

def legacy (length : UInt8) : Layout .legacy where
  chunkLength := min length.toNat maxChunkLength

def usb (reportLength : UInt8) : Layout .usb where
  chunkLength := min reportLength.toNat maxChunkLength

def negotiable (initial : Nat) (ceiling : UInt8) : Layout .negotiated where
  chunkLength := min initial (min ceiling.toNat maxChunkLength)
  ceiling := min ceiling.toNat maxChunkLength

/-- The outcome of an MTU exchange: three bytes go to the ATT header, and the length stays
between a first chunk's six bytes and the ceiling. -/
def setAttMtu (l : Layout .negotiated) (mtu : Nat) : Layout .negotiated :=
  { l with chunkLength := min l.ceiling (max 6 (mtu - 3)), negotiated := true }

/-- Refused when the bounds of the length are in the wrong order. -/
def setAttMtu? (l : Layout .negotiated) (mtu : Nat) : Except Fault (Layout .negotiated) :=
  if l.ceiling < 6 then .error .ceilingBelowFirstChunk else .ok (l.setAttMtu mtu)

def resetMtu (l : Layout .negotiated) (initial : Nat) : Layout .negotiated :=
  { l with chunkLength := min initial l.ceiling, negotiated := false }

/-- The error reply of a link that reports errors. -/
def errorReply {kind : LinkKind} (_ : Layout kind) (error : ChunkError) : Option (List UInt8) :=
  kind.errorTag.map fun tag => [tag, error.replyCode, 0, 0, 0]

end Layout

end CardLink
