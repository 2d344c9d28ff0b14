import CardLink.Settings

namespace CardLink.Stored

/-- Groups after the first that a 16-bit number may take, and the largest last group. -/
def wordGroups : Nat := 2

def wordTop : Nat := 3

/-- Groups after the first that a 32-bit number may take, and the largest last group. -/
def longGroups : Nat := 4

def longTop : Nat := 15

/-- At most `groups` continued groups, then one that ends the number. -/
def writeGroups : Nat → Nat → List UInt8
  | 0, n => [UInt8.ofNat n]
  | groups + 1, n =>
    if n < 128 then [UInt8.ofNat n]
    else UInt8.ofNat (n % 128 + 128) :: writeGroups groups (n / 128)

/-- A number may be padded with continued groups, but its last possible group is at most `top`. -/
def readGroups (top : Nat) : Nat → List UInt8 → Option (Nat × List UInt8)
  | _, [] => none
  | 0, byte :: rest => if byte.toNat ≤ top then some (byte.toNat, rest) else none
  | groups + 1, byte :: rest =>
    if byte.toNat < 128 then some (byte.toNat, rest)
    else
      match readGroups top groups rest with
      | some (high, rest) => some (byte.toNat - 128 + 128 * high, rest)
      | none => none

def writeWord (w : UInt16) : List UInt8 := writeGroups wordGroups w.toNat

def writeLong (w : UInt32) : List UInt8 := writeGroups longGroups w.toNat

def writePolicy : RetryPolicy → List UInt8
  | .unbounded => writeLong 0
  | .bounded attempts backoff => writeLong 1 ++ writeWord attempts ++ writeLong backoff

/-- A value at the start of the bytes, and the bytes after it. -/
abbrev Reader (α : Type) := StateT (List UInt8) Option α

def readByte : Reader UInt8
  | [] => none
  | byte :: rest => some (byte, rest)

def readWord : Reader UInt16 := fun bytes =>
  (readGroups wordTop wordGroups bytes).map fun (n, rest) => (UInt16.ofNat n, rest)

def readLong : Reader UInt32 := fun bytes =>
  (readGroups longTop longGroups bytes).map fun (n, rest) => (UInt32.ofNat n, rest)

def readPolicy : Reader RetryPolicy := do
  let index ← readLong
  if index = 0 then return .unbounded
  else if index = 1 then
    let attempts ← readWord
    let backoff ← readLong
    return .bounded attempts backoff
  else failure

def readSettings : Reader Settings := do
  let legacyChunkLength ← readByte
  let maxMtu ← readByte
  let defaultAttMtu ← readByte
  let hidReportLength ← readByte
  let tick ← readLong
  let hciTimeout ← readLong
  let connParamTimeout ← readLong
  let connectionTimeout ← readLong
  let transferTimeout ← readLong
  let advIntervalMin ← readWord
  let advIntervalMax ← readWord
  let connIntervalMin ← readWord
  let connIntervalMax ← readWord
  let appearance ← readWord
  let txPowerLevel ← readByte
  let legacyRetry ← readPolicy
  let controllerRetry ← readPolicy
  return {
    legacyChunkLength, maxMtu, defaultAttMtu, hidReportLength, tick, hciTimeout,
    connParamTimeout, connectionTimeout, transferTimeout, advIntervalMin, advIntervalMax,
    connIntervalMin, connIntervalMax, appearance, txPowerLevel, legacyRetry, controllerRetry }

end CardLink.Stored

namespace CardLink.Settings

open CardLink.Stored

/-- The stored form; it is written whether or not the settings are valid. -/
def encode (s : Settings) : List UInt8 :=
  [s.legacyChunkLength, s.maxMtu, s.defaultAttMtu, s.hidReportLength] ++
  writeLong s.tick ++ writeLong s.hciTimeout ++ writeLong s.connParamTimeout ++
  writeLong s.connectionTimeout ++ writeLong s.transferTimeout ++
  writeWord s.advIntervalMin ++ writeWord s.advIntervalMax ++
  writeWord s.connIntervalMin ++ writeWord s.connIntervalMax ++
  writeWord s.appearance ++ [s.txPowerLevel] ++
  writePolicy s.legacyRetry ++ writePolicy s.controllerRetry

/-- Valid settings from the start of the bytes; what follows them is not looked at. -/
def decode (bytes : List UInt8) : Except Defect Settings :=
  match readSettings bytes with
  | none => .error .undecodable
  | some (settings, _) =>
    match settings.defect? with
    | some defect => .error defect
    | none => .ok settings

end CardLink.Settings
