import CardLink.Proofs.Controller.Outstanding
import CardLink.Proofs.Controller.Startup
import CardLink.Proofs.Stored
import CardLink.Proofs.UsbDevice.Sessions
import CardLink.Simulator

namespace CardLink.Simulator

section

variable {length : UInt8} {host : Endpoint .usb} {device : UsbDevice}

/-- The device answers a message that comes with the last report. -/
theorem deviceRun_received {count total : Nat} {reports : List (List UInt8)}
    {got sent : UsbDevice} {sink after out : Sink}
    (statuses : device.receiveAll sink reports =
      (List.replicate count .moreData ++ [.received total], got, after))
    (sending : got.send (got.message ++ statusWord) after = (.ok (), sent, out)) :
    deviceRun reports device sink = ([total], .ok out) := by
  induction reports generalizing device sink count with
  | nil => cases count <;> cases statuses
  | cons report rest ih =>
    rcases given : device.receive report sink with ⟨status, next, wire⟩
    simp only [UsbDevice.receiveAll, given] at statuses
    cases count with
    | zero =>
      cases rest with
      | nil =>
        simp only [UsbDevice.receiveAll] at statuses
        cases statuses
        simp only [deviceRun, given, sending]
      | cons => cases statuses
    | succ count =>
      obtain ⟨rfl, more⟩ := List.cons.inj (congrArg Prod.fst statuses)
      have last : (next.receiveAll wire rest).2 = (got, after) := congrArg Prod.snd statuses
      simp only [deviceRun, given]
      exact ih (Prod.ext more last)

/-- The host takes the message that comes with the last report. -/
theorem hostRun_complete {count total : Nat} {reports : List (List UInt8)} {done : Endpoint .usb}
    (answers : host.receiveAll reports =
      (List.replicate count (.ok .needMore) ++ [.ok (.complete total)], done)) :
    hostRun reports host = .ok done.message := by
  induction reports generalizing host count with
  | nil => cases count <;> cases answers
  | cons report rest ih =>
    rcases given : host.receive report with ⟨answer, next⟩
    simp only [Endpoint.receiveAll, given] at answers
    cases count with
    | zero =>
      cases rest with
      | nil =>
        simp only [Endpoint.receiveAll] at answers
        cases answers
        simp only [hostRun, given]
      | cons => cases answers
    | succ count =>
      obtain ⟨rfl, more⟩ := List.cons.inj (congrArg Prod.fst answers)
      have last : (next.receiveAll rest).2 = done := congrArg Prod.snd answers
      simp only [hostRun, given]
      exact ih (Prod.ext more last)

/-- A command comes back with the status, whatever the report length. -/
theorem usbLoopback_echoes {settings : Settings} (room : 8 ≤ settings.hidReportLength.toNat)
    (fits : settings.hidReportLength.toNat ≤ 156) {command : List UInt8}
    (short : command.length + 2 ≤ messageCapacity) :
    ∃ reports, usbLoopback settings command =
      ⟨some reports, [command.length], .ok (command ++ statusWord)⟩ := by
  let host : Endpoint .usb :=
    { layout := .usb settings.hidReportLength, session := { channel := hostChannel } }
  let device := UsbDevice.create settings (shuffled 0x2545F491)
  have rests : host.Idle settings.hidReportLength := ⟨⟨rfl, rfl⟩, rfl, rfl⟩
  have waits : device.endpoint.Idle settings.hidReportLength := ⟨⟨rfl, rfl⟩, rfl, rfl⟩
  have answer : (command ++ statusWord).length ≤ messageCapacity := by
    rw [List.length_append]
    exact short
  obtain ⟨asked, out, asking, requests, awaits, -⟩ :=
    rests.sendAll (Nat.le_of_add_right_le short)
  obtain ⟨_, got, -, statuses, message, holds, -⟩ :=
    UsbDevice.receiveAll_message {} waits rests (Nat.le_of_add_right_le short) room fits
  obtain ⟨sent, back, sending, answers, -, -⟩ := UsbDevice.send_message holds answer
  obtain ⟨_, last, -, received, response, -, -⟩ := awaits.receiveAll holds answer room fits
  rw [← requests] at statuses
  rw [← answers] at received
  have answered : deviceRun out.chunks device {} = ([command.length], .ok back) :=
    deviceRun_received statuses (message ▸ sending)
  refine ⟨out.chunks.length, ?_⟩
  simp only [host, device] at asking answered
  simp only [usbLoopback, asking, answered, hostRun_complete received, response]

end

/-- The controller is ready after the commands of the initialisation, once each. -/
theorem bringUp_ready {settings : Settings} (valid : settings.validate = .ok ()) :
    bringUp settings = .ok 15 := by
  let core := Controller.Core.create settings (shuffled 0x9E3779B9) deviceName
    (Identity.staticAddress serial) false
  let l : Controller.Link :=
    { requester := { tick := Settings.microseconds settings.tick }, core := core }
  have created : Controller.Link.create? settings (shuffled 0x9E3779B9) deviceName serial false
      {} = .ok l := Controller.Link.create?_valid valid ..
  have reach : Requester.Reach SlotPool.standardSize (Settings.microseconds settings.tick)
      l.requester := .start
  have sized : core.Sized := ⟨Advertising.fittingBytes_length _ _, rfl⟩
  have enough : (Controller.bringUp core.planeMode).length ≤ bringUpEvents :=
    show (Controller.bringUp false).length ≤ bringUpEvents by decide
  obtain ⟨after, pumped, settled, -, frames⟩ := Controller.Link.pump?_init (l := l)
    reach (by decide) sized rfl ⟨rfl, rfl, rfl, rfl⟩ rfl enough
  have count : after.platform.frames.length = 15 := by
    have lengths := congrArg List.length frames
    rwa [List.length_map] at lengths
  simp only [bringUp, created, bind, Except.bind, pumped, settled.initialized, if_true, count]

/-- The lines of a run that goes through, with the number of reports that the command takes. -/
def scenario (reports : Nat) : List String :=
  [s!"SIM: host sent {reports} reports", "SIM: device got 5 byte APDU",
    "SIM: USB response [E0, 01, 00, 00, 00, 90, 00]", "SIM: controller ready after 15 commands"]

theorem exchange_succeeds {settings : Settings} (valid : settings.validate = .ok ()) :
    ∃ reports, exchange settings = (scenario reports, none) := by
  obtain ⟨room, fits⟩ := (Settings.proportioned valid).report
  have short : command.length + 2 ≤ messageCapacity := by decide
  obtain ⟨reports, echoed⟩ := usbLoopback_echoes room fits short
  have received : s!"SIM: device got {command.length} byte APDU" =
      "SIM: device got 5 byte APDU" := by decide +kernel
  have response : "SIM: USB response " ++ listed (command ++ statusWord) =
      "SIM: USB response [E0, 01, 00, 00, 00, 90, 00]" := by decide +kernel
  have counted : s!"SIM: controller ready after {15} commands" =
      "SIM: controller ready after 15 commands" := by decide +kernel
  refine ⟨reports, ?_⟩
  unfold exchange
  rw [echoed, bringUp_ready valid]
  dsimp only
  rw [Option.toList_some, List.map_singleton, List.map_singleton, received, response, counted,
    scenario]
  rfl

/-- The warning of a run that cannot store the settings back. -/
def unkept : String := "SIM: config not persisted (I/O error)"

theorem run_bytes {bytes : List UInt8} {settings : Settings}
    (decoded : Settings.decode bytes = .ok settings) (path : String) (writable : Bool) :
    run path (.bytes bytes) writable =
      if writable then ⟨(exchange settings).1, (exchange settings).2, some settings.encode⟩
      else ⟨unkept :: (exchange settings).1, (exchange settings).2, some bytes⟩ := by
  have valid := (Settings.decode_exact.2.2.2.2 bytes settings decoded).1
  cases writable
  all_goals
    simp only [run, load, decoded, toStore, valid]
    rfl

theorem run_missing (path : String) (writable : Bool) :
    run path .missing writable =
      if writable then
        ⟨(exchange .standard).1, (exchange .standard).2, some Settings.standard.encode⟩
      else ⟨unkept :: (exchange .standard).1, (exchange .standard).2, none⟩ := by
  have valid : Settings.standard.validate = .ok () := rfl
  cases writable
  all_goals
    simp only [run, load, toStore, valid]
    rfl

/-- A run with stored bytes that are read as valid settings goes through, and leaves the stored form
of these settings, with which a second run does the same; where it cannot write, it warns. Bytes
that are refused are kept, and the run ends with the refusal. Without stored bytes it is a run with
the standard settings. -/
theorem run_canonical (path : String) (bytes : List UInt8) :
    (∀ settings, Settings.decode bytes = .ok settings →
      (run path (.bytes bytes) true).exitCode = 0 ∧
      (run path (.bytes bytes) true).stored = some settings.encode ∧
      run path (.bytes settings.encode) true = run path (.bytes bytes) true ∧
      ∃ reports, (run path (.bytes bytes) true).log = scenario reports ∧
        run path (.bytes bytes) false = ⟨unkept :: scenario reports, none, some bytes⟩) ∧
    (∀ defect, Settings.decode bytes = .error defect → ∀ writable,
      (run path (.bytes bytes) writable).exitCode = 1 ∧
      run path (.bytes bytes) writable =
        ⟨[], some ("loading " ++ path, "config corrupted"), some bytes⟩) ∧
    run path .missing true = run path (.bytes Settings.standard.encode) true ∧
    run path .missing false =
      { run path (.bytes Settings.standard.encode) false with stored := none } := by
  have standard : Settings.decode Settings.standard.encode = .ok .standard := by decide +kernel
  refine ⟨fun settings decoded => ?_, fun defect refused writable => ?_, ?_, ?_⟩
  · obtain ⟨valid, again, -⟩ := Settings.decode_exact.2.2.2.2 bytes settings decoded
    obtain ⟨reports, went⟩ := exchange_succeeds valid
    have first : run path (.bytes bytes) true =
        ⟨scenario reports, none, some settings.encode⟩ := by
      rw [run_bytes decoded, went]
      rfl
    have second : run path (.bytes settings.encode) true =
        ⟨scenario reports, none, some settings.encode⟩ := by
      rw [run_bytes again, went]
      rfl
    have warned : run path (.bytes bytes) false =
        ⟨unkept :: scenario reports, none, some bytes⟩ := by
      rw [run_bytes decoded, went]
      rfl
    rw [first, second]
    exact ⟨rfl, rfl, rfl, reports, rfl, warned⟩
  · have failed : run path (.bytes bytes) writable =
        ⟨[], some ("loading " ++ path, "config corrupted"), some bytes⟩ := by
      simp only [run, load, refused]
      rfl
    rw [failed]
    exact ⟨rfl, rfl⟩
  · rw [run_missing, run_bytes standard]
    rfl
  · rw [run_missing, run_bytes standard]
    rfl

/-- The standard settings with a byte behind them, and bytes that end too early. -/
theorem run_canonical_padded :
    let bytes := Settings.standard.encode ++ [0x55]
    Settings.decode bytes = .ok .standard ∧ Settings.decode [0x14] = .error .undecodable ∧
    (run "link.cfg" (.bytes bytes) true).exitCode = 0 ∧
    (run "link.cfg" (.bytes bytes) true).stored = some Settings.standard.encode ∧
    run "link.cfg" (.bytes Settings.standard.encode) true = run "link.cfg" (.bytes bytes) true ∧
    (∃ reports, (run "link.cfg" (.bytes bytes) true).log = scenario reports ∧
      run "link.cfg" (.bytes bytes) false = ⟨unkept :: scenario reports, none, some bytes⟩) ∧
    run "link.cfg" (.bytes [0x14]) true =
      ⟨[], some ("loading link.cfg", "config corrupted"), some [0x14]⟩ := by
  intro bytes
  have decoded : Settings.decode bytes = .ok .standard := by decide +kernel
  have refused : Settings.decode [0x14] = .error .undecodable := rfl
  obtain ⟨exit, stored, again, log⟩ := (run_canonical "link.cfg" bytes).1 .standard decoded
  have cut := (run_canonical "link.cfg" [0x14]).2.1 .undecodable refused true
  exact ⟨decoded, refused, exit, stored, again, log, cut.2⟩

end CardLink.Simulator
