import CardLink.Controller.Link
import CardLink.Settings.Stored
import CardLink.UsbDevice

namespace CardLink.Simulator

inductive Content where
  | missing
  | bytes (content : List UInt8)
  | unreadable
  deriving DecidableEq, Repr

/-- Missing settings are the standard ones. -/
def load : Content → Except StoreError Settings
  | .missing => .ok .standard
  | .unreadable => .error .io
  | .bytes content =>
    match Settings.decode content with
    | .ok settings => .ok settings
    | .error _ => .error .corrupted

/-- The bytes that a run writes back; only valid settings are written. -/
def toStore (settings : Settings) : Except StoreError (List UInt8) :=
  match settings.validate with
  | .error defect => .error (.validationFailed defect.message)
  | .ok () => .ok settings.encode

/-- The words of the simulated random sources: exclusive-or shifts of a seed. -/
def shuffle (x : UInt32) : UInt32 :=
  let x := x ^^^ (x <<< 13)
  let x := x ^^^ (x >>> 17)
  x ^^^ (x <<< 5)

def shuffled (seed : UInt32) : RandomSource where
  word n := Nat.repeat shuffle (n + 1) seed

/-- A command and its way back, with what the log tells of it. -/
structure Loopback where
  /-- The number of reports, if the host could send the command. -/
  sent : Option Nat
  /-- Lengths of the messages that the device put together. -/
  received : List Nat
  response : Except String (List UInt8)

def hostChannel : UInt16 := 0x0101

/-- The status that the device appends to what it echoes. -/
def statusWord : List UInt8 := [0x90, 0x00]

/-- The device takes in the reports and answers each whole message. -/
def deviceRun : List (List UInt8) → UsbDevice → Sink → List Nat × Except String Sink
  | [], _, sink => ([], .ok sink)
  | report :: rest, device, sink =>
    match device.receive report sink with
    | (.moreData, device, sink) => deviceRun rest device sink
    | (.reset, _, _) => ([], .error "device reset the exchange")
    | (.received length, device, sink) =>
      match device.send (device.message ++ statusWord) sink with
      | (.error error, _, _) => ([length], .error ("device response: " ++ error.message))
      | (.ok (), device, sink) =>
        let (lengths, result) := deviceRun rest device sink
        (length :: lengths, result)

/-- The host takes in reports until a message is whole. -/
def hostRun : List (List UInt8) → Endpoint .usb → Except String (List UInt8)
  | [], _ => .error "no response from device"
  | report :: rest, host =>
    match host.receive report with
    | (.error error, _) => .error ("host reassembly: " ++ error.message)
    | (.ok (.complete _), host) => .ok host.message
    | (.ok _, host) => hostRun rest host

def usbLoopback (settings : Settings) (command : List UInt8) : Loopback :=
  let host : Endpoint .usb :=
    { layout := .usb settings.hidReportLength, session := { channel := hostChannel } }
  let device := UsbDevice.create settings (shuffled 0x2545F491)
  match host.sendAll command {} with
  | (.error error, _, _) => ⟨none, [], .error ("host fragmenting: " ++ error.message)⟩
  | (.ok (), host, wire) =>
    let (received, result) := deviceRun wire.chunks device {}
    ⟨some wire.chunks.length, received,
      match result with
      | .error message => .error message
      | .ok answers => hostRun answers.chunks host⟩

def deviceName : String := "Nano X SIM"

def serial : List UInt8 := [0x31, 0x41, 0x59, 0x26, 0x53, 0x58, 0x97, 0x93]

def phaseName : Controller.Phase → String
  | .idle => "Idle"
  | .initializing => "Initializing"
  | .configuringAdvertising => "ConfigureAdvertising"
  | .ready => "Ready"
  | .failed => "Failed"

/-- Twice the events that both sequences need to finish. -/
def bringUpEvents : Nat := 32

/-- The number of commands until the controller is ready; each is completed at once. -/
def bringUp (settings : Settings) : Except String Nat :=
  let started := do
    let link ← Controller.Link.create? settings (shuffled 0x9E3779B9) deviceName serial false {}
    link.init.pump? bringUpEvents
  match started with
  | .error _ => .error "controller cannot be started"
  | .ok (_, link) =>
    if link.core.phase = .ready then .ok link.platform.frames.length
    else .error ("controller stuck in " ++ phaseName link.core.phase)

/-- The command that goes to the device. -/
def command : List UInt8 := [0xE0, 0x01, 0x00, 0x00, 0x00]

def listed (bytes : List UInt8) : String :=
  "[" ++ ", ".intercalate (bytes.map Hex.byte) ++ "]"

/-- What a run leaves: its log, the failure that ended it with the place where it arose, and the
bytes then kept as settings. -/
structure Outcome where
  log : List String
  failure : Option (String × String)
  stored : Option (List UInt8)
  deriving DecidableEq, Repr

/-- The part of a run after the settings have been loaded and stored back. -/
def exchange (settings : Settings) : List String × Option (String × String) :=
  let loopback := usbLoopback settings command
  let sent := loopback.sent.toList.map fun n => s!"SIM: host sent {n} reports"
  let received := loopback.received.map fun n => s!"SIM: device got {n} byte APDU"
  match loopback.response with
  | .error message => (sent ++ received, some ("USB loopback", message))
  | .ok response =>
    let answered := sent ++ received ++ ["SIM: USB response " ++ listed response]
    match bringUp settings with
    | .error message => (answered, some ("BLE bring-up", message))
    | .ok count => (answered ++ [s!"SIM: controller ready after {count} commands"], none)

/-- A whole run. Settings that cannot be stored back are only worth a warning. -/
def run (path : String) (content : Content) (writable : Bool) : Outcome :=
  let kept :=
    match content with
    | .bytes bytes => some bytes
    | .missing | .unreadable => none
  match load content with
  | .error error => ⟨[], some ("loading " ++ path, error.message), kept⟩
  | .ok settings =>
    let written : Except StoreError (List UInt8) :=
      match toStore settings with
      | .error error => .error error
      | .ok bytes => if writable then .ok bytes else .error .io
    let (log, failure) := exchange settings
    match written with
    | .ok bytes => ⟨log, failure, some bytes⟩
    | .error error =>
      ⟨("SIM: config not persisted (" ++ error.message ++ ")") :: log, failure, kept⟩

namespace Outcome

def exitCode (o : Outcome) : UInt32 := if o.failure.isSome then 1 else 0

/-- The lines that report the failure: where it arose, then its cause. -/
def trace (o : Outcome) : List String :=
  match o.failure with
  | none => []
  | some (place, cause) => ["Error: " ++ place, "", "Caused by:", "    " ++ cause]

end Outcome

end CardLink.Simulator
