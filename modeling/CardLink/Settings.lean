import CardLink.Fault

namespace CardLink

/-- Size of the reassembly buffer: a five-byte card header and 255 bytes of data. -/
def messageCapacity : Nat := 260

def maxChunkLength : Nat := 156

inductive RetryPolicy where
  | unbounded
  | bounded (attempts : UInt16) (backoff : UInt32)
  deriving DecidableEq, Repr

/-- Retry number `attempt`, counted from one, is still allowed. -/
def RetryPolicy.allows (policy : RetryPolicy) (attempt : Nat) : Bool :=
  match policy with
  | unbounded => true
  | bounded attempts _ => decide (attempt ≤ attempts.toNat)

/-- Microseconds to wait before a retry. -/
def RetryPolicy.backoff : RetryPolicy → Nat
  | unbounded => 0
  | bounded _ backoff => backoff.toNat

structure Settings where
  /-- Chunk length on the legacy controller. -/
  legacyChunkLength : UInt8
  maxMtu : UInt8
  /-- ATT MTU before any exchange. -/
  defaultAttMtu : UInt8
  hidReportLength : UInt8
  /-- Milliseconds between two platform ticks. -/
  tick : UInt32
  /-- Milliseconds allowed to a controller command. -/
  hciTimeout : UInt32
  connParamTimeout : UInt32
  /-- Milliseconds between a legacy connection and its first message. -/
  connectionTimeout : UInt32
  /-- Milliseconds allowed to an unacknowledged notification. -/
  transferTimeout : UInt32
  /-- Advertising interval bounds in units of 0.625 ms. -/
  advIntervalMin : UInt16
  advIntervalMax : UInt16
  /-- Connection interval bounds in units of 1.25 ms. -/
  connIntervalMin : UInt16
  connIntervalMax : UInt16
  appearance : UInt16
  txPowerLevel : UInt8
  legacyRetry : RetryPolicy
  controllerRetry : RetryPolicy
  deriving DecidableEq, Repr

namespace Settings

def standard : Settings where
  legacyChunkLength := 20
  maxMtu := 156
  defaultAttMtu := 23
  hidReportLength := 64
  tick := 100
  hciTimeout := 33000
  connParamTimeout := 5000
  connectionTimeout := 5000
  transferTimeout := 2000
  advIntervalMin := 48
  advIntervalMax := 96
  connIntervalMin := 12
  connIntervalMax := 24
  appearance := 576
  txPowerLevel := 7
  legacyRetry := .unbounded
  controllerRetry := .bounded 10 1000

instance : Inhabited Settings := ⟨standard⟩

inductive Defect where
  | legacyChunkLength
  | maxMtu
  | defaultAttMtu
  | hidReportLength
  | tickZero
  | timeoutBelowTick
  | advertisingBounds
  | connectionBounds
  /-- Command writes have no event to wait for, so their retries must end by themselves. -/
  | unboundedRetry
  /-- The stored bytes are not an encoding of settings. -/
  | undecodable
  deriving DecidableEq, Repr

def Defect.message : Defect → String
  | legacyChunkLength => "legacy_chunk_len out of range"
  | maxMtu => "max_mtu out of range"
  | defaultAttMtu => "default_att_mtu below BLE minimum"
  | hidReportLength => "hid_report_len out of range"
  | tickZero => "tick_ms must be nonzero"
  | timeoutBelowTick => "HCI timeout shorter than one tick"
  | advertisingBounds => "advertising interval bounds inverted"
  | connectionBounds => "connection interval bounds inverted"
  | unboundedRetry => "controller_retry must be bounded"
  | undecodable => "decode failed"

/-- The first defect in the order of the fields, if there is one. -/
def defect? (s : Settings) : Option Defect :=
  if s.legacyChunkLength.toNat < 6 ∨ maxChunkLength < s.legacyChunkLength.toNat then
    some .legacyChunkLength
  else if s.maxMtu.toNat < 6 ∨ maxChunkLength < s.maxMtu.toNat then some .maxMtu
  else if s.defaultAttMtu.toNat < 23 then some .defaultAttMtu
  else if s.hidReportLength.toNat < 8 ∨ maxChunkLength < s.hidReportLength.toNat then
    some .hidReportLength
  else if s.tick = 0 then some .tickZero
  else if s.hciTimeout < s.tick ∨ s.connParamTimeout < s.tick then some .timeoutBelowTick
  else if s.advIntervalMax < s.advIntervalMin then some .advertisingBounds
  else if s.connIntervalMax < s.connIntervalMin then some .connectionBounds
  else if s.controllerRetry = .unbounded then some .unboundedRetry
  else none

def validate (s : Settings) : Except Defect Unit :=
  match s.defect? with
  | some defect => .error defect
  | none => .ok ()

/-- Chunk length before any MTU exchange: three bytes of the MTU are the ATT header. -/
def initialChunkLength (s : Settings) : Nat :=
  min (s.defaultAttMtu.toNat - 3) s.maxMtu.toNat

def initialChunkLength? (s : Settings) : Except Fault Nat :=
  if s.defaultAttMtu.toNat < 3 then .error .mtuBelowHeader else .ok s.initialChunkLength

/-- Milliseconds of a setting in the microseconds that countdowns use. -/
def microseconds (milliseconds : UInt32) : Nat := milliseconds.toNat * 1000

end Settings

end CardLink
