import CardLink.Settings
import CardLink.Packet.Event
import CardLink.Packet.Frame

namespace CardLink

inductive PlatformEvent where
  | hci (raw : List UInt8)
  | tick
  | usb (report : List UInt8)
  /-- Anything the links do not consume. -/
  | other
  deriving DecidableEq, Repr

/-- What a link does to its platform. -/
inductive PlatformAct where
  | wrote (frame : List UInt8)
  | refused (frame : List UInt8)
  | switchedRadio (on : Bool)
  /-- Waited for this many microseconds. -/
  | paused (time : Nat)
  deriving DecidableEq, Repr

structure ReplyRule where
  opcode : UInt16
  events : List PlatformEvent
  deriving DecidableEq, Repr

/-- The platform under a link, as a value: the events it will deliver, how the controller answers
commands, and a log of what the link did to it. -/
structure Platform where
  queue : List PlatformEvent := []
  /-- Outcomes of the next command writes; `none` is success, and so is the end of the list. -/
  outcomes : List (Option WriteError) := []
  /-- Each rule answers one command. -/
  rules : List ReplyRule := []
  /-- Commands without a rule are completed with status zero. -/
  completes : Bool := true
  /-- Opcodes that are not completed. -/
  silent : List UInt16 := []
  /-- The attribute handle given out last. -/
  handle : UInt16 := 0
  /-- What the link did, the latest first. -/
  log : List PlatformAct := []
  deriving DecidableEq, Repr

namespace Platform

/-- Handles are given out sixteen apart. -/
def handleStep : UInt16 := 0x10

/-- How many handles the completion of a command carries. -/
def handleCount (opcode : UInt16) : Nat :=
  if opcode = Command.gapInit.opcode then 3
  else if opcode = Command.addService.opcode ∨ opcode = Command.addChar.opcode then 1
  else 0

/-- The bytes of the next handles, and the handle given out last. -/
def giveHandles : Nat → UInt16 → List UInt8 × UInt16
  | 0, handle => ([], handle)
  | count + 1, handle =>
    let (rest, last) := giveHandles count (handle + handleStep)
    (Word.little (handle + handleStep) ++ rest, last)

/-- A command-complete event with status zero and handles. -/
def completion (opcode : UInt16) (handles : List UInt8) : List UInt8 :=
  [EventPacket.packetType, EventCode.commandComplete, UInt8.ofNat (4 + handles.length), 0x01] ++
    Word.little opcode ++ 0x00 :: handles

/-- The controller takes a frame and queues its answer. -/
def accept (p : Platform) (frame : List UInt8) : Platform :=
  let opcode := Frame.opcode frame
  let p := { p with
    log := .wrote frame :: p.log
    handle := if opcode = Command.reset.opcode then 0 else p.handle }
  match p.rules.find? fun rule => rule.opcode == opcode with
  | some rule =>
    { p with
      queue := p.queue ++ rule.events
      rules := p.rules.eraseP fun rule => rule.opcode == opcode }
  | none =>
    if p.completes ∧ opcode ∉ p.silent then
      let (handles, last) := giveHandles (handleCount opcode) p.handle
      { p with queue := p.queue ++ [.hci (completion opcode handles)], handle := last }
    else p

def send (p : Platform) (frame : List UInt8) : Except WriteError Unit × Platform :=
  match p.outcomes with
  | [] => (.ok (), p.accept frame)
  | none :: rest => (.ok (), { p with outcomes := rest }.accept frame)
  | some error :: rest => (.error error, { p with outcomes := rest, log := .refused frame :: p.log })

def switchRadio (p : Platform) (on : Bool) : Platform :=
  { p with log := .switchedRadio on :: p.log }

def pause (p : Platform) (time : Nat) : Platform :=
  { p with log := .paused time :: p.log }

def frames (p : Platform) : List (List UInt8) :=
  p.log.reverse.filterMap fun act =>
    match act with
    | .wrote frame => some frame
    | _ => none

def refusals (p : Platform) : Nat :=
  p.log.countP fun act =>
    match act with
    | .refused _ => true
    | _ => false

def radio (p : Platform) : List Bool :=
  p.log.reverse.filterMap fun act =>
    match act with
    | .switchedRadio on => some on
    | _ => none

/-- Microseconds waited in all. -/
def waited (p : Platform) : Nat :=
  p.log.foldr (fun act total =>
    match act with
    | .paused time => time + total
    | _ => total) 0

/-- A refused write uses up an outcome of the script. -/
theorem outcomes_of_refused {p : Platform} {frame : List UInt8} {error : WriteError}
    (refused : (p.send frame).1 = .error error) :
    (p.send frame).2.outcomes.length < p.outcomes.length := by
  unfold send at refused ⊢
  split at refused <;> simp_all

/-- Waits as a bounded policy says before it writes again. -/
def backOff (p : Platform) (policy : RetryPolicy) : Platform :=
  match policy with
  | .unbounded => p
  | .bounded _ backoff => p.pause backoff.toNat

@[simp]
theorem backOff_outcomes (p : Platform) (policy : RetryPolicy) :
    (p.backOff policy).outcomes = p.outcomes := by
  cases policy <;> rfl

/-- Events that the platform can still deliver without completing a command of its own accord. -/
def scripted (p : Platform) : List PlatformEvent :=
  p.queue ++ p.rules.flatMap ReplyRule.events

end Platform

end CardLink
