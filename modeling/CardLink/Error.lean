import CardLink.Framing.Tag
import CardLink.Hex

namespace CardLink

/-- Why a received chunk is refused. Each one drops the reception. -/
inductive ChunkError where
  | tooShort (length : Nat)
  | sequenceMismatch (expected received : Nat)
  | channelMismatch (expected received : UInt16)
  | overflow (declared capacity : Nat)
  /-- A tag that must stand alone came with a sequence other than zero. -/
  | unexpectedSequence (tag : UInt8)
  | unknownTag (tag : UInt8)
  deriving DecidableEq, Repr

/-- Why a frame or a chunk could not be written. -/
inductive WriteError where
  /-- The controller has no free buffer; the retry policy decides. -/
  | insufficientResources
  | retriesExhausted
  | notConnected
  | status (code : UInt8)
  | io
  deriving DecidableEq, Repr

inductive SendError where
  | busy
  /-- The host started over, or the link dropped, while chunks were going out. -/
  | aborted
  | tooLong (length : Nat)
  | link (cause : WriteError)
  deriving DecidableEq, Repr

inductive CommandError where
  | timeout
  | controller (status : UInt8)
  | hardware (code : UInt8)
  | malformed
  | poolExhausted
  | busy
  | link (cause : WriteError)
  deriving DecidableEq, Repr

inductive StoreError where
  | corrupted
  | validationFailed (reason : String)
  | io
  deriving DecidableEq, Repr

inductive LinkError where
  | chunk (cause : ChunkError)
  | send (cause : SendError)
  | write (cause : WriteError)
  | command (cause : CommandError)
  | settings (reason : String)
  deriving DecidableEq, Repr

/-- The byte after the tag of an error reply. -/
def ChunkError.replyCode : ChunkError → UInt8
  | tooShort _ | sequenceMismatch _ _ | channelMismatch _ _ => 0
  | overflow _ _ => 1
  | unexpectedSequence tag =>
    if tag = Tag.version.byte then 3
    else if tag = Tag.echo.byte then 4
    else if tag = Tag.init.byte then 5
    else tag
  | unknownTag tag => tag

def ChunkError.message : ChunkError → String
  | tooShort length => s!"chunk too short ({length} bytes)"
  | sequenceMismatch expected received =>
    s!"sequence mismatch (expected {expected}, got {received})"
  | channelMismatch expected received =>
    "channel mismatch (expected 0x" ++ Hex.word expected ++ ", got 0x" ++ Hex.word received ++ ")"
  | overflow declared capacity => s!"declared length {declared} exceeds capacity {capacity}"
  | unexpectedSequence tag => "tag 0x" ++ Hex.byte tag ++ " requires sequence 0"
  | unknownTag tag => "unknown tag 0x" ++ Hex.byte tag

def WriteError.message : WriteError → String
  | insufficientResources => "controller out of resources"
  | retriesExhausted => "retries exhausted"
  | notConnected => "no client connected"
  | status code => "controller status 0x" ++ Hex.byte code
  | io => "bus I/O error"

def SendError.message : SendError → String
  | busy => "already sending"
  | aborted => "aborted by host"
  | tooLong length => s!"APDU too long ({length} bytes)"
  | link cause => "link: " ++ cause.message

def CommandError.message : CommandError → String
  | timeout => "request timed out"
  | controller status => "controller status 0x" ++ Hex.byte status
  | hardware code => "hardware error 0x" ++ Hex.byte code
  | malformed => "malformed packet"
  | poolExhausted => "packet pool exhausted"
  | busy => "command already outstanding"
  | link cause => "link: " ++ cause.message

def StoreError.message : StoreError → String
  | corrupted => "config corrupted"
  | validationFailed reason => "validation failed: " ++ reason
  | io => "I/O error"

def LinkError.message : LinkError → String
  | chunk cause => "frame: " ++ cause.message
  | send cause => "send: " ++ cause.message
  | write cause => "tx: " ++ cause.message
  | command cause => "hci: " ++ cause.message
  | settings reason => "config: " ++ reason

end CardLink
