import CardLink.Proofs.Controller.Prompts

namespace CardLink

/-- The command that tells the controller what the user said. -/
def PairingQuestion.answer : PairingQuestion → Command
  | passkey => .passKeyResponse
  | comparison => .confirmComparison

namespace Controller

/-- The connection is dropped or made anew, or its record comes to name another one. -/
def Core.Loses (c : Core) (input : Input) : Prop :=
  (c.effect input).Severs ∨ (c.step input).connection.handle ≠ c.connection.handle

/-- Something else is asked, or what was asked is answered or has come to its end. -/
def Closes (e : Core × Input) : Prop := e.1.asked e.2 ≠ none ∨ e.1.settles e.2 = true

/-- The user has been asked and has not answered. -/
def Unanswered (question : PairingQuestion) : List (Core × Input) → Prop :=
  Since (fun e => e.1.asked e.2 = some question) Closes

/-- The connection that has asked has this handle, and is still there to be answered. -/
def AskedBy (question : PairingQuestion) (handle : UInt16) : List (Core × Input) → Prop :=
  Since (fun e => e.1.asked e.2 = some question ∧ e.1.connection.handle = handle)
    (fun e => Closes e ∨ e.1.Loses e.2)

/-- A connection has been lost, and since then nothing was asked, answered or ended. -/
def LeftBehind : List (Core × Input) → Prop := Since (fun e => e.1.Loses e.2) Closes

namespace Core

variable {c : Core}

theorem not_loses_of_asked {input : Input} {question : PairingQuestion}
    (asked : c.asked input = some question) : ¬c.Loses input := by
  obtain ⟨effect, same⟩ := c.step_of_asked asked
  rintro (severs | renamed)
  · rw [effect] at severs
    exact severs.elim nofun fun either => either.elim nofun nofun
  · exact renamed (congrArg Connection.handle same)

theorem send_queued {command : Command} {params frame : List UInt8}
    (queued : (c.send command params).outbox = c.outbox ++ [frame]) :
    frame = Frame.packetType :: Word.little command.opcode ++
      UInt8.ofNat params.length :: params := by
  unfold send Frame.build at queued
  by_cases long : 255 < params.length
  · simp [if_pos long] at queued
  · simp only [if_neg long] at queued
    split at queued
    · exact (List.cons.inj (List.append_cancel_left queued)).1.symm
    · simp at queued

/-- An answer is queued for what was asked only, and for the current connection. -/
theorem respond_queued {answer : PairingAnswer} {frame : List UInt8}
    (queued : (c.respond answer).outbox = c.outbox ++ [frame]) :
    ∃ question, c.pairing.question = some question ∧
      Frame.opcode frame = question.answer.opcode ∧
      Word.littleAt frame 4 = c.connection.handle := by
  have reply := c.pairing.respond_reply answer
  simp only [respond] at queued
  cases asked : c.pairing.question with
  | none =>
    rw [asked] at reply
    simp [reply] at queued
  | some question =>
    refine ⟨question, rfl, ?_⟩
    rw [asked] at reply
    cases question with
    | passkey =>
      cases answer
      all_goals
        rw [reply] at queued
        cases send_queued queued
        exact ⟨Word.join_split _, Word.join_split _⟩
    | comparison =>
      rw [reply] at queued
      cases send_queued queued
      exact ⟨Word.join_split _, Word.join_split _⟩

end Core

variable {settings : Settings} {random : RandomSource} {name : String} {address : List UInt8}
  {planeMode : Bool} {past : List (Core × Input)} {c : Core}

/-- What the link holds for unanswered is what was asked and is not answered. -/
theorem Run.question_iff (run : Run (.create settings random name address planeMode) past c)
    {question : PairingQuestion} :
    c.pairing.question = some question ↔ Unanswered question past := by
  unfold Unanswered
  induction run with
  | start => exact iff_of_false nofun not_since_nil
  | @next past c run input ih =>
    have after : (c.step input).pairing.question = c.questionAfter input :=
      congrArg Profile.question (c.step_profile input)
    rw [since_append, ← ih, after, Core.questionAfter, Closes]
    cases settled : c.settles input with
    | true =>
      have unasked : c.asked input = none := c.asked_of_settles settled
      simp [unasked]
    | false =>
      cases asked : c.asked input <;> simp

/-- Whoever has asked before is not there any more. -/
theorem not_askedBy_of_loses {input : Input} (lost : c.Loses input)
    (unasked : c.asked input = none) (question : PairingQuestion) (handle : UInt16) :
    ¬AskedBy question handle (past ++ [(c, input)]) := by
  rw [AskedBy, since_append, unasked]
  rintro (⟨now, -⟩ | ⟨-, kept⟩)
  · cases now
  · exact kept (.inr lost)

/-- As long as the connection that asked is not lost, the link still names it. -/
theorem Run.askedBy {initial : Core} (run : Run initial past c) {question : PairingQuestion}
    (asked : Since (fun e => e.1.asked e.2 = some question)
      (fun e => Closes e ∨ e.1.Loses e.2) past) : AskedBy question c.connection.handle past := by
  unfold AskedBy
  induction run with
  | start => exact absurd asked not_since_nil
  | @next past c run input ih =>
    rw [since_append] at asked ⊢
    rcases asked with now | ⟨before, kept⟩
    · have same := (c.step_of_asked now).2
      exact .inl ⟨now, congrArg Connection.handle same.symm⟩
    · have same : (c.step input).connection.handle = c.connection.handle :=
        Decidable.byContradiction fun renamed => kept (.inr (.inr renamed))
      rw [same]
      exact .inr ⟨ih before, kept⟩

/-- A command is queued for what was asked and is not answered. It goes to the connection that
asked, which is still there, just if none has been lost since it asked; otherwise it goes to
whichever connection the link names now. -/
theorem Run.answer_iff (run : Run (.create settings random name address planeMode) past c)
    {answer : PairingAnswer} {frame : List UInt8}
    (queued : (c.respond answer).outbox = c.outbox ++ [frame]) :
    ∃ question, Unanswered question past ∧ Frame.opcode frame = question.answer.opcode ∧
      Word.littleAt frame 4 = c.connection.handle ∧
      (AskedBy question (Word.littleAt frame 4) past ↔ ¬LeftBehind past) := by
  obtain ⟨question, held, opcode, handle⟩ := Core.respond_queued queued
  have unanswered := run.question_iff.mp held
  have fresh : ∀ e : Core × Input, e.1.asked e.2 = some question → Closes e ∧ ¬e.1.Loses e.2 :=
    fun e asked => ⟨.inl (by rw [asked]; exact nofun), Core.not_loses_of_asked asked⟩
  have standing := since_or fresh unanswered
  refine ⟨question, unanswered, opcode, handle, ?_⟩
  rw [LeftBehind, ← standing, handle]
  constructor
  · rintro ⟨older, e, newer, split, ⟨asked, -⟩, kept⟩
    exact ⟨older, e, newer, split, asked, kept⟩
  · exact run.askedBy

/-- The client of a session asks for a passkey, and the user accepts the one shown. -/
theorem Run.answer_iff_asked :
    let initial := Core.create .standard (.stepping 123456 1) "card" [1, 2, 3, 4, 5, 6] true
    let inputs := Input.session ++
      [Input.event EventCode.vendor (Word.little 0x0402 ++ Word.little 0x0801)]
    let c := inputs.foldl Core.step initial
    let frame := Frame.packetType :: Word.little Command.passKeyResponse.opcode ++
      0x06 :: Word.little 0x0801 ++ Word.little32 123456
    ∃ past, Run initial past c ∧ (c.respond .ok).outbox = c.outbox ++ [frame] ∧
      ∃ question, Unanswered question past ∧ Frame.opcode frame = question.answer.opcode ∧
        Word.littleAt frame 4 = c.connection.handle ∧
        (AskedBy question (Word.littleAt frame 4) past ↔ ¬LeftBehind past) := by
  intro initial inputs c frame
  obtain ⟨past, run⟩ : ∃ past, Run initial past c := Run.script initial inputs
  have queued : (c.respond .ok).outbox = c.outbox ++ [frame] := by decide +kernel
  exact ⟨past, run, queued, run.answer_iff queued⟩

/-- The client that has asked is lost, and another one connects before the user answers: it gets the
passkey that was shown to the first. -/
theorem answer_to_another :
    let initial := Core.create .standard (.stepping 123456 1) "card" [1, 2, 3, 4, 5, 6] true
    let inputs := Input.session ++
      [Input.event EventCode.vendor (Word.little 0x0402 ++ Word.little 0x0801),
        Input.event EventCode.disconnectionComplete (0x00 :: Word.little 0x0801 ++ [0x13])]
    let alone := inputs.foldl Core.step initial
    let connects :=
      Input.event EventCode.leMeta (0x01 :: 0x00 :: Word.little 0x0802 ++ List.replicate 15 0x00)
    let c := alone.step connects
    let frame := Frame.packetType :: Word.little Command.passKeyResponse.opcode ++
      0x06 :: Word.little 0x0802 ++ Word.little32 123456
    ∃ past, Run initial past c ∧ (c.respond .ok).outbox = c.outbox ++ [frame] ∧
      ∀ question, ¬AskedBy question (Word.littleAt frame 4) past := by
  intro initial inputs alone connects c frame
  obtain ⟨past, run⟩ : ∃ past, Run initial past alone := Run.script initial inputs
  have queued : (c.respond .ok).outbox = c.outbox ++ [frame] := by decide +kernel
  have lost : alone.Loses connects := by
    have connected : alone.effect connects = .connected := by decide +kernel
    rw [Core.Loses, connected]
    exact .inl (.inr (.inl rfl))
  exact ⟨_, run.next connects, queued, fun question => not_askedBy_of_loses lost rfl question _⟩

end Controller

end CardLink
