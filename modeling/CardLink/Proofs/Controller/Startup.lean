import CardLink.Proofs.Controller.Initialization
import CardLink.Proofs.Controller.Operations
import CardLink.Proofs.Controller.Outstanding
import CardLink.Proofs.Controller.Writing

namespace CardLink

namespace Platform

/-- The controller takes every command and completes it at once with status zero. -/
structure Obliging (p : Platform) : Prop where
  outcomes : p.outcomes = []
  rules : p.rules = []
  completes : p.completes = true
  silent : p.silent = []

/-- At most three handles are given out for a command. -/
theorem giveHandles_length (count : Nat) (handle : UInt16) :
    (giveHandles count handle).1.length = 2 * count := by
  induction count generalizing handle with
  | zero => rfl
  | succ count ih =>
    simp only [giveHandles, List.length_append, Word.length_little, ih]
    omega

theorem handleCount_le (opcode : UInt16) : handleCount opcode ≤ 3 := by
  unfold handleCount
  split
  · exact Nat.le_refl 3
  · split <;> decide

theorem Obliging.send {p : Platform} (obliging : p.Obliging) (frame : List UInt8) :
    ∃ handles after, p.send frame = (.ok (), after) ∧ after.Obliging ∧ handles.length ≤ 6 ∧
      after.queue = p.queue ++ [.hci (completion (Frame.opcode frame) handles)] ∧
      after.frames = p.frames ++ [frame] := by
  have framed := p.accept_frames frame
  have count := handleCount_le (Frame.opcode frame)
  have sent : p.send frame = (.ok (), p.accept frame) := by rw [Platform.send, obliging.outcomes]
  unfold accept at framed sent
  simp only [obliging.rules, List.find?_nil, obliging.completes, obliging.silent,
    List.not_mem_nil, not_false_eq_true, and_self, if_true] at framed sent
  refine ⟨_, _, sent, ⟨obliging.outcomes, rfl, rfl, rfl⟩, ?_, rfl, framed⟩
  rw [giveHandles_length]
  omega

end Platform

namespace EventPacket

open Platform

theorem parse_completion (opcode : UInt16) {handles : List UInt8} (few : handles.length ≤ 6) :
    parse (completion opcode handles) = .ok ⟨completion opcode handles⟩ := by
  have length : (UInt8.ofNat (4 + handles.length)).toNat =
      (0x01 :: Word.little opcode ++ 0x00 :: handles).length := by
    simp only [UInt8.toNat_ofNat', List.length_cons, List.length_append, Word.length_little]
    omega
  exact if_pos ⟨rfl, length⟩

end EventPacket

namespace Controller

theorem completes_completion (opcode : UInt16) (handles : List UInt8) :
    (Input.packet ⟨Platform.completion opcode handles⟩).completes? = some opcode :=
  congrArg some (Word.join_split opcode)

namespace Link

variable {l : Link} {size period : Nat}

/-- With settings that it can honour a link comes to be. -/
theorem create?_valid {settings : Settings} (valid : settings.validate = .ok ())
    (random : RandomSource) (name : String) (serial : List UInt8) (planeMode : Bool)
    (platform : Platform) : create? settings random name serial planeMode platform = .ok {
      platform := platform
      requester := { tick := Settings.microseconds settings.tick }
      core := .create settings random name (Identity.staticAddress serial) planeMode } := by
  simp only [create?, Core.create?, (Settings.proportioned valid).initialChunkLength?_eq]

/-- The queued frame of a core is written, and its completion waits. -/
theorem flush_alone {c : Core} (empty : c.outbox = []) (frame : List UInt8)
    (obliging : l.platform.Obliging) :
    ∃ handles after, { l with core := { c with outbox := [frame] } }.flush =
        { l with platform := after, core := c } ∧
      after.Obliging ∧ handles.length ≤ 6 ∧
      after.queue =
        l.platform.queue ++ [.hci (Platform.completion (Frame.opcode frame) handles)] ∧
      after.frames = l.platform.frames ++ [frame] := by
  obtain ⟨handles, after, sent, still, few, queue, frames⟩ := obliging.send frame
  have written : writeFrame c.settings.controllerRetry frame 0 l.platform = (.ok (), after) := by
    have taken : (l.platform.send frame).1 ≠ .error .insufficientResources := by
      rw [sent]
      exact nofun
    rw [writeFrame_ended (absurd · taken), sent]
  refine ⟨handles, after, ?_, still, few, queue, frames⟩
  have whole : { c with outbox := [] } = c := by rw [← empty]
  have once : flush { l with core := { c with outbox := [frame] } } =
      writeNext { l with core := { c with outbox := [frame] } } := rfl
  rw [once]
  simp only [writeNext, Core.nextCommand, written, whole]

theorem flush_empty (empty : l.core.outbox = []) : l.flush = l := by
  rw [flush, empty]
  rfl

/-- A command-complete event sets no MTU, so the core takes it. -/
theorem onPacket?_completion (c : Core) (opcode : UInt16) (handles : List UInt8) :
    c.onPacket? ⟨Platform.completion opcode handles⟩ =
      .ok (c.onPacket ⟨Platform.completion opcode handles⟩) := rfl

/-- A completion is taken by the core, and what is then queued is written. -/
theorem processEvent?_completion (reach : Requester.Reach size period l.requester)
    (positive : 0 < size) {opcode : UInt16} {handles : List UInt8} (few : handles.length ≤ 6)
    {later : List PlatformEvent}
    (queue : l.platform.queue = .hci (Platform.completion opcode handles) :: later) :
    ∃ requester, Requester.Reach size period requester ∧
      l.processEvent? = .ok (true, flush {
        platform := { l.platform with queue := later }
        requester := requester
        core := l.core.step (.packet ⟨Platform.completion opcode handles⟩) }) := by
  obtain ⟨requester, still, handled⟩ := handlePacket?_eq
    (l := { l with platform := { l.platform with queue := later } }) reach positive
    (Platform.completion opcode handles)
  refine ⟨requester, still, ?_⟩
  simp only [processEvent?, queue, handled, EventPacket.parse_completion opcode few,
    onPacket?_completion]
  rfl

theorem pump?_empty (empty : l.platform.queue = []) (limit : Nat) : l.pump? limit = .ok (0, l) := by
  cases limit with
  | zero => rfl
  | succ limit => simp only [pump?, processEvent?, empty]

theorem pump?_next {next after : Link} {limit count : Nat}
    (processed : l.processEvent? = .ok (true, next))
    (rest : next.pump? limit = .ok (count, after)) :
    l.pump? (limit + 1) = .ok (count + 1, after) := by
  simp only [pump?, processed, rest]

/-- Each completion has the next command written, and the last one ends the initialisation. -/
theorem pump?_awaiting {awaited : Command} {later : List Command} {handles : List UInt8}
    {limit : Nat} (reach : Requester.Reach size period l.requester) (positive : 0 < size)
    (waiting : l.core.Awaiting awaited later) (bonded : l.core.clearPairing = false)
    (obliging : l.platform.Obliging) (few : handles.length ≤ 6)
    (queue : l.platform.queue = [.hci (Platform.completion awaited.opcode handles)])
    (enough : later.length < limit) :
    ∃ after, l.pump? limit = .ok (later.length + 1, after) ∧ after.core.Settled ∧
      after.platform.queue = [] ∧
      after.platform.frames.map Frame.opcode =
        l.platform.frames.map Frame.opcode ++ later.map Command.opcode := by
  induction later generalizing l awaited handles limit with
  | nil =>
    obtain ⟨requester, -, processed⟩ := processEvent?_completion reach positive few queue
    obtain ⟨frames, d, opcodes, stepped, settled⟩ :=
      waiting.last (completes_completion awaited.opcode handles)
    have none : frames = [] := by
      rw [bonded] at opcodes
      exact List.map_eq_nil_iff.mp opcodes
    have whole : { d with outbox := frames } = d := by rw [none, ← settled.empty]
    rw [stepped, whole, flush_empty settled.empty] at processed
    cases limit with
    | zero => cases enough
    | succ limit =>
      exact ⟨_, pump?_next processed (pump?_empty rfl limit), settled, rfl,
        (List.append_nil _).symm⟩
  | cons command later ih =>
    obtain ⟨requester, still, processed⟩ := processEvent?_completion reach positive few queue
    obtain ⟨frame, d, opcode, stepped, waits, same⟩ :=
      waiting.next (completes_completion awaited.opcode handles)
    have willing : Platform.Obliging { l.platform with queue := [] } :=
      ⟨obliging.outcomes, obliging.rules, obliging.completes, obliging.silent⟩
    obtain ⟨granted, written, flushed, obliging, few, queue, frames⟩ :=
      flush_alone (l := ⟨{ l.platform with queue := [] }, requester, d⟩) waits.empty frame willing
    rw [stepped, flushed] at processed
    rw [opcode] at queue
    cases limit with
    | zero => cases enough
    | succ limit =>
      obtain ⟨after, pumped, settled, drained, written⟩ :=
        ih (l := ⟨written, requester, d⟩) still waits (same.trans bonded) obliging few queue
          (Nat.lt_of_succ_lt_succ enough)
      refine ⟨after, pump?_next processed pumped, settled, drained, ?_⟩
      rw [written, frames, List.map_append, List.map_singleton, opcode, List.append_assoc]
      rfl

/-- Brought up by a controller that completes every command at once, the link writes the commands
of the initialisation, and then it is ready and there is no event left. -/
theorem pump?_init (reach : Requester.Reach size period l.requester) (positive : 0 < size)
    (sized : l.core.Sized) (bonded : l.core.clearPairing = false)
    (obliging : l.platform.Obliging) (quiet : l.platform.queue = []) {limit : Nat}
    (enough : (bringUp l.core.planeMode).length ≤ limit) :
    ∃ after, l.init.pump? limit = .ok ((bringUp l.core.planeMode).length, after) ∧
      after.core.Settled ∧ after.platform.queue = [] ∧
      after.platform.frames.map Frame.opcode = l.platform.frames.map Frame.opcode ++
        (bringUp l.core.planeMode).map Command.opcode := by
  obtain ⟨frame, d, opcode, begun, waits, same⟩ := sized.beginInit
  obtain ⟨handles, written, flushed, obliging, few, queue, frames⟩ :=
    flush_alone (l := { l with core := d }) waits.empty frame obliging
  have started : l.init = ⟨written, l.requester, d⟩ := by
    rw [init, perform, begun, flushed]
  have count : (bringUp l.core.planeMode).length = (bringUp l.core.planeMode).tail.length + 1 :=
    rfl
  rw [quiet, List.nil_append, opcode] at queue
  obtain ⟨after, pumped, settled, drained, rest⟩ :=
    pump?_awaiting (l := ⟨written, l.requester, d⟩) reach positive waits (same.trans bonded)
      obliging few queue (Nat.lt_of_succ_le (count ▸ enough))
  refine ⟨after, ?_, settled, drained, ?_⟩
  · rw [started, pumped, count]
  · rw [rest, frames, List.map_append, List.map_singleton, opcode, List.append_assoc]
    rfl

end Link

end Controller

end CardLink
