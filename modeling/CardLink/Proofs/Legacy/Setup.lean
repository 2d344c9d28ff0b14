import CardLink.Proofs.Legacy.Courses
import CardLink.Proofs.Legacy.Rounds
import CardLink.Proofs.Requester.Trying
import Mathlib.Data.List.Basic

namespace CardLink.Legacy

namespace SetupStep

/-- The handles once those of a reply have been added. -/
def gains (handles : Handles) (reply : List UInt8) : SetupStep → Handles
  | gapInit => { handles with
      gapService := Word.littleAt reply 1
      gapDeviceName := Word.littleAt reply 3
      gapAppearance := Word.littleAt reply 5 }
  | addService => { handles with service := Word.littleAt reply 1 }
  | addTxChar => { handles with tx := Word.littleAt reply 1 }
  | addRxChar => { handles with rx := Word.littleAt reply 1 }
  | writeAddress | gattInit | authRequirement | txPower | scanResponse | deviceName | appearance
  | discoverable => handles

end SetupStep

/-- The steps of setup in their order, with so many tries of the name and of the appearance. -/
def setupOrder (names appearances : Nat) : List SetupStep :=
  [.writeAddress, .gattInit, .gapInit, .authRequirement, .addService, .addTxChar, .addRxChar,
    .txPower, .scanResponse] ++ List.replicate names .deviceName ++
    List.replicate appearances .appearance ++ [.discoverable]

/-- The commands of setup in their order, with so many updates of the name and of the appearance. -/
def setupCommands (names appearances : Nat) : List Command :=
  [.writeConfig, .gattInit, .gapInit, .setAuthRequirement, .addService, .addChar, .addChar,
    .setTxPower, .setScanResponse] ++ List.replicate names .updateCharValue ++
    List.replicate appearances .updateCharValue ++ [.setDiscoverable]

theorem setupOrder_commands (names appearances : Nat) :
    (setupOrder names appearances).map SetupStep.command = setupCommands names appearances := by
  simp only [setupOrder, setupCommands, List.map_append, List.map_cons, List.map_nil,
    List.map_replicate, SetupStep.command]

namespace Link

/-- The flag of a free buffer is cleared before a value is written. -/
def cleared (l : Link) : Link := { l with core := { l.core with txPoolAvailable := false } }

/-- The core learns the handles with the second characteristic. -/
def learns (l : Link) (handles : Handles) : SetupStep → Link
  | .addRxChar => { l with core := { l.core with handles := handles } }
  | _ => l

end Link

/-- A command of setup that is tried. -/
structure SetupAttempt where
  step : SetupStep
  /-- The link as the command finds it. -/
  link : Link
  /-- The handles collected so far. -/
  given : Handles

/-- The reply, if it reports no failure and is long enough. -/
def judgeReply (least : Nat) :
    Except CommandError (List UInt8) → Except CommandError (List UInt8)
  | .error error => .error error
  | .ok reply =>
    match checkStatus reply with
    | .error error => .error error
    | .ok () => if reply.length < least then .error .malformed else .ok reply

namespace SetupAttempt

def request (a : SetupAttempt) : Request :=
  a.link.request a.step.command (a.link.setupParams a.given a.step) (max 1 a.step.replyLength)

def frame (a : SetupAttempt) : List UInt8 := a.request.frame

def asked (a : SetupAttempt) : Except CommandError (List UInt8) × Link :=
  a.link.ask a.step.command (a.link.setupParams a.given a.step) (max 1 a.step.replyLength)

/-- What the controller answers, or why it does not. -/
def answer (a : SetupAttempt) : Except CommandError (List UInt8) := a.asked.1

def after (a : SetupAttempt) : Link := a.asked.2

/-- The command was answered without a failure, and with all the handles. -/
def Completed (a : SetupAttempt) : Prop :=
  ∃ reply, a.answer = .ok reply ∧ reply.headD 0 = 0 ∧ a.step.replyLength ≤ reply.length

def outcome (a : SetupAttempt) : Except CommandError (List UInt8) :=
  judgeReply a.step.replyLength a.answer

end SetupAttempt

theorem checkStatus_ok {reply : List UInt8} : checkStatus reply = .ok () ↔ reply.headD 0 = 0 := by
  cases reply with
  | nil => exact iff_of_true rfl rfl
  | cons status rest =>
    simp only [checkStatus, List.headD_cons]
    split <;> simp [*]

theorem judgeReply_ok {least : Nat} {answer : Except CommandError (List UInt8)}
    {reply : List UInt8} : judgeReply least answer = .ok reply ↔
      answer = .ok reply ∧ reply.headD 0 = 0 ∧ least ≤ reply.length := by
  cases answer with
  | error error => exact iff_of_false nofun fun both => nomatch both.1
  | ok given =>
    simp only [judgeReply, Except.ok.injEq, ← checkStatus_ok]
    constructor
    · intro judged
      split at judged
      · cases judged
      · rename_i status
        split at judged
        · cases judged
        · rename_i long
          cases judged
          exact ⟨rfl, status, Nat.not_lt.mp long⟩
    · rintro ⟨rfl, status, long⟩
      simp only [status, if_neg (Nat.not_lt.mpr long)]

namespace SetupAttempt

theorem completed_iff (a : SetupAttempt) : a.Completed ↔ ∃ reply, a.outcome = .ok reply :=
  exists_congr fun _ => judgeReply_ok.symm

theorem completed_of_outcome {a : SetupAttempt} {reply : List UInt8}
    (outcome : a.outcome = .ok reply) : a.Completed := a.completed_iff.mpr ⟨reply, outcome⟩

theorem not_completed {a : SetupAttempt} {error : CommandError}
    (failed : a.outcome = .error error) : ¬a.Completed := fun completed => by
  obtain ⟨reply, outcome⟩ := a.completed_iff.mp completed
  cases failed.symm.trans outcome

end SetupAttempt

namespace Link

/-- What follows a judged answer: the failure, or what is made of the reply. -/
def settle (outcome : Except CommandError (List UInt8)) (l : Link)
    (next : List UInt8 → Handles × Link) : Except CommandError Handles × Link :=
  match outcome with
  | .error error => (.error error, l)
  | .ok reply => (.ok (next reply).1, (next reply).2)

theorem settle_error {outcome : Except CommandError (List UInt8)} {error : CommandError} {l : Link}
    {next : List UInt8 → Handles × Link} (failed : outcome = .error error) :
    settle outcome l next = (.error error, l) := by
  rw [failed]
  rfl

theorem settle_ok {outcome : Except CommandError (List UInt8)} {reply : List UInt8} {l : Link}
    {next : List UInt8 → Handles × Link} (completed : outcome = .ok reply) :
    settle outcome l next = (.ok (next reply).1, (next reply).2) := by
  rw [completed]
  rfl

theorem plainStep_eq (l : Link) (command : Command) (params : List UInt8) (handles : Handles) :
    l.plainStep command params handles =
      settle (judgeReply 0 (l.ask command params 1).1) (l.ask command params 1).2
        fun _ => (handles, (l.ask command params 1).2) := by
  unfold plainStep Link.command
  obtain ⟨_ | reply, after⟩ := l.ask command params 1
  · rfl
  · cases status : checkStatus reply <;> simp [settle, judgeReply, status]

theorem askHandles_eq (l : Link) (command : Command) (params : List UInt8) (count : Nat) :
    l.askHandles command params count =
      (judgeReply (1 + 2 * count) (l.ask command params (1 + 2 * count)).1,
        (l.ask command params (1 + 2 * count)).2) := by
  unfold askHandles
  obtain ⟨_ | reply, after⟩ := l.ask command params (1 + 2 * count)
  · rfl
  · cases status : checkStatus reply with
    | error error => simp only [judgeReply, status]
    | ok =>
      simp only [judgeReply, status]
      split <;> rfl

variable {l : Link} {handles : Handles} {step : SetupStep}

/-- A step that fails ends setup; any other adds the handles of its reply. -/
theorem setupStep_single (single : step.updates = false) : l.setupStep handles step =
    settle (SetupAttempt.outcome ⟨step, l, handles⟩) (SetupAttempt.after ⟨step, l, handles⟩)
      fun reply => (step.gains handles reply,
        (SetupAttempt.after ⟨step, l, handles⟩).learns (step.gains handles reply) step) := by
  cases step with
  | writeAddress | gattInit | authRequirement | txPower | scanResponse | discoverable =>
    exact l.plainStep_eq _ _ handles
  | gapInit | addService | addTxChar | addRxChar =>
    simp only [setupStep, askHandles_eq]
    symm
    split <;> rename_i same
    · obtain ⟨failed, rfl⟩ := Prod.mk.inj same
      exact settle_error failed
    · obtain ⟨completed, rfl⟩ := Prod.mk.inj same
      exact settle_ok completed
  | deviceName | appearance => cases single

/-- A value is tried as often as it is written, anything else once. -/
def setupStepAttempts (l : Link) (handles : Handles) (step : SetupStep) : List SetupAttempt :=
  if step.updates then
    (l.attempts (l.setupParams handles step) (l.setupStepUpdates handles step).length).map
      fun m => ⟨step, m.cleared, handles⟩
  else [⟨step, l, handles⟩]

def setupRunAttempts : List SetupStep → Handles → Link → List SetupAttempt
  | [], _, _ => []
  | step :: rest, handles, l =>
    l.setupStepAttempts handles step ++
      match l.setupStep handles step with
      | (.error _, _) => []
      | (.ok handles, l) => setupRunAttempts rest handles l

/-- Every command that setup tries, the first first. -/
def setupAttempts (l : Link) : List SetupAttempt :=
  setupRunAttempts setupSteps {} { l with core := l.core.resetLink }

/-- Steps of setup one after the other, until one fails. A value that is refused does not. -/
inductive Proceeds : List SetupStep → Handles → Link → List SetupAttempt →
    Except CommandError Unit → Link → Prop
  | done (handles : Handles) (l : Link) : Proceeds [] handles l [] (.ok ()) l
  | failed {step : SetupStep} {steps : List SetupStep} {handles : Handles} {l : Link}
      {error : CommandError} (single : step.updates = false)
      (failed : SetupAttempt.outcome ⟨step, l, handles⟩ = .error error) :
      Proceeds (step :: steps) handles l [⟨step, l, handles⟩] (.error error)
        (SetupAttempt.after ⟨step, l, handles⟩)
  | completed {step : SetupStep} {steps : List SetupStep} {handles : Handles} {l ended : Link}
      {reply : List UInt8} {later : List SetupAttempt} {result : Except CommandError Unit}
      (single : step.updates = false)
      (completed : SetupAttempt.outcome ⟨step, l, handles⟩ = .ok reply)
      (rest : Proceeds steps (step.gains handles reply)
        ((SetupAttempt.after ⟨step, l, handles⟩).learns (step.gains handles reply) step)
        later result ended) :
      Proceeds (step :: steps) handles l (⟨step, l, handles⟩ :: later) result ended
  | updated {step : SetupStep} {steps : List SetupStep} {handles : Handles} {l ended : Link}
      {later : List SetupAttempt} {result : Except CommandError Unit}
      (update : step.updates = true)
      (rest : Proceeds steps handles (l.setupStep handles step).2 later result ended) :
      Proceeds (step :: steps) handles l (l.setupStepAttempts handles step ++ later) result ended

theorem setupStep_updated (update : step.updates = true) :
    (l.setupStep handles step).1 = .ok handles := by
  obtain rfl | rfl := SetupStep.updates_iff.mp update <;> rfl

theorem setupRun_proceeds (steps : List SetupStep) (handles : Handles) (l : Link) :
    Proceeds steps handles l (setupRunAttempts steps handles l) (setupRun steps handles l).1
      (setupRun steps handles l).2 := by
  induction steps generalizing handles l with
  | nil => exact .done handles l
  | cons step rest ih =>
    simp only [setupRunAttempts, setupRun]
    cases kind : step.updates with
    | true =>
      have kept : (l.setupStep handles step).1 = .ok handles := setupStep_updated kind
      have updated := Proceeds.updated kind (ih handles (l.setupStep handles step).2)
      generalize l.setupStep handles step = out at kept updated ⊢
      obtain ⟨result, after⟩ := out
      cases kept
      exact updated
    | false =>
      rw [setupStep_single kind, setupStepAttempts, kind]
      cases outcome : SetupAttempt.outcome ⟨step, l, handles⟩ with
      | error error => exact .failed kind outcome
      | ok reply => exact .completed kind outcome (ih _ _)

theorem setup_proceeds (l : Link) :
    Proceeds setupSteps {} { l with core := l.core.resetLink } l.setupAttempts l.setup.1
      l.setup.2 :=
  setupRun_proceeds setupSteps {} _

variable {steps : List SetupStep} {attempts : List SetupAttempt}
  {result : Except CommandError Unit} {ended : Link}

theorem length_attempts (params : List UInt8) (count : Nat) (l : Link) :
    (l.attempts params count).length = count := by
  induction count generalizing l with
  | zero => rfl
  | succ count ih => exact congrArg (· + 1) (ih _)

theorem updates_length (l : Link) (params : List UInt8) : 1 ≤ (l.updates params).length := by
  simp [updates, updateUpdates]

theorem setupStepAttempts_steps (l : Link) (handles : Handles) (step : SetupStep) :
    ∃ rounds, 1 ≤ rounds ∧ (step.updates = false → rounds = 1) ∧
      (l.setupStepAttempts handles step).map (·.step) = List.replicate rounds step := by
  cases kind : step.updates with
  | false => exact ⟨1, Nat.le_refl 1, fun _ => rfl, by rw [setupStepAttempts, kind]; rfl⟩
  | true =>
    refine ⟨(l.setupStepUpdates handles step).length, ?_, nofun, ?_⟩
    · rw [setupStepUpdates, kind, if_pos rfl]
      exact l.updates_length _
    · rw [setupStepAttempts, kind, if_pos rfl, List.map_map]
      refine (List.map_const' ..).trans ?_
      rw [length_attempts]

/-- How often each step is tried. -/
structure Ordered (rounds : SetupStep → Nat) (steps : List SetupStep)
    (attempts : List SetupAttempt) (result : Except CommandError Unit) : Prop where
  some : ∀ step, 1 ≤ rounds step
  single : ∀ step, step.updates = false → rounds step = 1
  order : attempts.map (·.step) <+: steps.flatMap fun step => List.replicate (rounds step) step
  whole : result = .ok () →
    attempts.map (·.step) = steps.flatMap fun step => List.replicate (rounds step) step

theorem Ordered.cons {rounds : SetupStep → Nat} {step : SetupStep} {later : List SetupAttempt}
    (ordered : Ordered rounds steps later result) (fresh : step ∉ steps) {tries : Nat}
    (some : 1 ≤ tries) (single : step.updates = false → tries = 1) (first : List SetupAttempt)
    (same : first.map (·.step) = List.replicate tries step) :
    Ordered (Function.update rounds step tries) (step :: steps) (first ++ later) result := by
  -- The later steps are other ones, so their counts stay.
  have rest : (steps.flatMap fun step' =>
      List.replicate (Function.update rounds step tries step') step') =
      steps.flatMap fun step' => List.replicate (rounds step') step' :=
    List.flatMap_congr fun step' member => by
      rw [Function.update_of_ne (ne_of_mem_of_not_mem member fresh)]
  refine ⟨fun step' => ?_, fun step' => ?_, ?_, fun ok => ?_⟩
  · rw [Function.update_apply]
    split
    · exact some
    · exact ordered.some step'
  · rw [Function.update_apply]
    split
    · rename_i here
      exact here ▸ single
    · exact ordered.single step'
  · rw [List.map_append, same, List.flatMap_cons, Function.update_self, rest]
    exact (List.prefix_append_right_inj _).mpr ordered.order
  · rw [List.map_append, same, List.flatMap_cons, Function.update_self, rest, ordered.whole ok]

theorem Proceeds.ordered (proceeds : Proceeds steps handles l attempts result ended)
    (once : steps.Nodup) : ∃ rounds, Ordered rounds steps attempts result := by
  induction proceeds with
  | done =>
    exact ⟨fun _ => 1, fun _ => Nat.le_refl 1, fun _ _ => rfl, List.nil_prefix, fun _ => rfl⟩
  | failed =>
    exact ⟨fun _ => 1, fun _ => Nat.le_refl 1, fun _ _ => rfl, List.prefix_append _ _, nofun⟩
  | completed single _ _ ih =>
    obtain ⟨fresh, once⟩ := List.nodup_cons.mp once
    obtain ⟨rounds, ordered⟩ := ih once
    exact ⟨_, ordered.cons fresh (Nat.le_refl 1) (fun _ => rfl) [_] rfl⟩
  | @updated step _ handles l _ _ _ _ _ ih =>
    obtain ⟨fresh, once⟩ := List.nodup_cons.mp once
    obtain ⟨rounds, ordered⟩ := ih once
    obtain ⟨tries, some, single, same⟩ := l.setupStepAttempts_steps handles step
    exact ⟨_, ordered.cons fresh some single _ same⟩

theorem setup_ordered (l : Link) : ∃ names appearances, 1 ≤ names ∧ 1 ≤ appearances ∧
    (l.setupAttempts.map (·.step) <+: setupOrder names appearances) ∧
    (l.setup.1 = .ok () → l.setupAttempts.map (·.step) = setupOrder names appearances) := by
  obtain ⟨rounds, ordered⟩ := l.setup_proceeds.ordered (by decide)
  have order : (setupSteps.flatMap fun step => List.replicate (rounds step) step) =
      setupOrder (rounds .deviceName) (rounds .appearance) := by
    have single := ordered.single
    simp +decide [setupSteps, discoverableSteps, setupOrder, single]
  exact ⟨rounds .deviceName, rounds .appearance, ordered.some _, ordered.some _,
    order ▸ ordered.order, order ▸ ordered.whole⟩

/-- All that was asked has been completed, but for the values, and for the last command if the run
has failed. -/
inductive Ends : List SetupAttempt → Except CommandError Unit → Prop
  | ok {attempts : List SetupAttempt}
      (completed : ∀ a ∈ attempts, a.step.updates = false → a.Completed) : Ends attempts (.ok ())
  | error {earlier : List SetupAttempt} {last : SetupAttempt} {error : CommandError}
      (single : last.step.updates = false) (failed : last.outcome = .error error)
      (completed : ∀ a ∈ earlier, a.step.updates = false → a.Completed) :
      Ends (earlier ++ [last]) (.error error)

theorem Ends.append {later : List SetupAttempt} (first : List SetupAttempt)
    (completed : ∀ a ∈ first, a.step.updates = false → a.Completed) (ends : Ends later result) :
    Ends (first ++ later) result := by
  cases ends with
  | ok rest => exact .ok (List.forall_mem_append.mpr ⟨completed, rest⟩)
  | error single failed rest =>
    rw [← List.append_assoc]
    exact .error single failed (List.forall_mem_append.mpr ⟨completed, rest⟩)

theorem mem_setupStepAttempts {a : SetupAttempt} (tried : a ∈ l.setupStepAttempts handles step) :
    a.step = step := by
  obtain ⟨rounds, -, -, same⟩ := l.setupStepAttempts_steps handles step
  exact List.eq_of_mem_replicate (same ▸ List.mem_map_of_mem tried)

theorem Proceeds.ends (proceeds : Proceeds steps handles l attempts result ended) :
    Ends attempts result := by
  induction proceeds with
  | done => exact .ok (List.forall_mem_nil _)
  | failed single failed => exact @Ends.error [] _ _ single failed (List.forall_mem_nil _)
  | completed _ completed _ ih =>
    exact ih.append [_] (List.forall_mem_singleton.mpr fun _ =>
      SetupAttempt.completed_of_outcome completed)
  | updated update _ ih =>
    refine ih.append _ fun a tried single => ?_
    rw [mem_setupStepAttempts tried, update] at single
    cases single

theorem Ends.ok_iff (ends : Ends attempts result) :
    result = .ok () ↔ ∀ a ∈ attempts, a.step.updates = false → a.Completed := by
  cases ends with
  | ok completed => exact iff_of_true rfl completed
  | error single failed =>
    refine iff_of_false nofun fun completed => ?_
    exact SetupAttempt.not_completed failed
      (completed _ (List.mem_append_right _ (List.mem_singleton_self _)) single)

end Link

end CardLink.Legacy
