import CardLink.Platform
import CardLink.Proofs.Controller.Moves
import CardLink.Proofs.Since

namespace CardLink.Controller

/-- The inputs from an initial state on, each with the state that it met. -/
inductive Run (initial : Core) : List (Core × Input) → Core → Prop
  | start : Run initial [] initial
  | next {past : List (Core × Input)} {c : Core} (run : Run initial past c) (input : Input) :
      Run initial (past ++ [(c, input)]) (c.step input)

/-- What a script of inputs comes to. -/
def Core.history (c : Core) : List Input → List (Core × Input)
  | [] => []
  | input :: inputs => (c, input) :: (c.step input).history inputs

theorem Core.history_inputs (c : Core) (inputs : List Input) :
    (c.history inputs).map Prod.snd = inputs := by
  induction inputs generalizing c with
  | nil => rfl
  | cons input inputs ih => exact congrArg (input :: ·) (ih _)

theorem Run.history {initial c : Core} {past : List (Core × Input)} (run : Run initial past c)
    (inputs : List Input) : Run initial (past ++ c.history inputs) (inputs.foldl Core.step c) := by
  induction inputs generalizing c past with
  | nil => exact (List.append_nil past).symm ▸ run
  | cons input inputs ih =>
    rw [Core.history, List.append_cons]
    exact ih (run.next input)

theorem Run.inputs {initial c : Core} {past : List (Core × Input)} (run : Run initial past c)
    (inputs : List Input) : ∃ later, Run initial (past ++ later) (inputs.foldl Core.step c) ∧
      later.map Prod.snd = inputs :=
  ⟨c.history inputs, run.history inputs, c.history_inputs inputs⟩

/-- The run of a script of inputs. -/
theorem Run.script (initial : Core) (inputs : List Input) :
    ∃ past, Run initial past (inputs.foldl Core.step initial) := by
  obtain ⟨past, run, -⟩ := Run.start.inputs inputs
  exact ⟨past, run⟩

theorem Run.append {initial c after : Core} {past later : List (Core × Input)}
    (run : Run initial past c) (next : Run c later after) : Run initial (past ++ later) after := by
  induction next with
  | start => exact (List.append_nil past).symm ▸ run
  | next _ input ih =>
    rw [← List.append_assoc]
    exact ih.next input

theorem Run.cons {c after : Core} {later : List (Core × Input)} (input : Input)
    (next : Run (c.step input) later after) : Run c ((c, input) :: later) after :=
  (Run.start.next input).append next

theorem Run.before {initial c after : Core} {past later : List (Core × Input)} {input : Input}
    (run : Run initial (past ++ (c, input) :: later) after) : Run initial past c := by
  generalize split : past ++ (c, input) :: later = whole at run
  induction run generalizing later with
  | start => simp at split
  | next run _ ih =>
    rcases split_append split.symm with ⟨-, rfl, same⟩ | ⟨between, rfl, whole⟩
    · cases same
      exact run
    · exact ih whole.symm

namespace Input

/-- The completion of a command, with status zero and nothing else. -/
def completed (command : Command) : Input :=
  .packet ⟨Platform.completion command.opcode []⟩

/-- The completion of a command that gives handles out. -/
def granted (command : Command) (handles : List UInt16) : Input :=
  .packet ⟨Platform.completion command.opcode (handles.flatMap Word.little)⟩

def event (code : UInt8) (params : List UInt8) : Input :=
  .packet ⟨EventPacket.packetType :: code :: UInt8.ofNat params.length :: params⟩

/-- The client of the session below has written an attribute. -/
def modified (attr : UInt16) (value : List UInt8) : Input :=
  event EventCode.vendor (Word.little 0x0C01 ++ Word.little 0x0801 ++ Word.little attr ++
    Word.little 0 ++ Word.little (UInt16.ofNat value.length) ++ value)

/-- The client of the session below asks for the permit to write an attribute. -/
def asked (attr : UInt16) (value : List UInt8) : Input :=
  event EventCode.vendor (Word.little 0x0C13 ++ Word.little 0x0801 ++ Word.little attr ++
    UInt8.ofNat value.length :: value)

/-- A device that does not advertise is brought up; a client connects, encrypts the connection and
subscribes. Its messages are notified on 0x50 and written to 0x61, or without response to 0x71.
Every command is written at once. -/
def session : List Input :=
  [.beginInit, completed .reset, completed .writeConfig, completed .gattInit,
    granted .gapInit [0x10, 0x20, 0x30], completed .setIoCapability,
    completed .setAuthRequirement, granted .addService [0x40], granted .addChar [0x50],
    granted .addChar [0x60], granted .addChar [0x70], completed .setTxPower,
    completed .updateAdvData, completed .setScanResponse, completed .updateCharValue,
    event EventCode.leMeta (0x01 :: 0x00 :: Word.little 0x0801 ++ List.replicate 15 0x00),
    event EventCode.encryptionChange (0x00 :: Word.little 0x0801 ++ [0x01]),
    modified 0x52 [0x01, 0x00]].flatMap fun input => [input, .nextCommand]

end Input

end CardLink.Controller
