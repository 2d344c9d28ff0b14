import CardLink.Pairing

namespace CardLink

/-- The number to be shown. -/
def PairingPrompt.code : PairingPrompt → UInt32
  | passkey code => code
  | comparison code => code

def PairingMessage.prompt? : PairingMessage → Option PairingPrompt
  | request prompt => some prompt
  | closed _ => none

/-- The code of the next word to be drawn. -/
def RandomSource.code (r : RandomSource) : UInt32 := r.next.1 % Pairing.codeBound

theorem RandomSource.code_lt (r : RandomSource) : r.code < Pairing.codeBound :=
  UInt32.mod_lt _ (by decide)

namespace Pairing

inductive Call where
  | requestPasskey
  | requestComparison (value : UInt32)
  | complete (status reason : UInt8)
  | close (reason : PairingEnd)
  | respond (answer : PairingAnswer)
  | nextMessage

def perform (p : Pairing) : Call → Pairing
  | .requestPasskey => p.requestPasskey
  | .requestComparison value => p.requestComparison value
  | .complete status reason => p.complete status reason
  | .close reason => p.close reason
  | .respond answer => (p.respond answer).2
  | .nextMessage => p.nextMessage.2

/-- The calls from the beginning on, each with the state that it met. -/
inductive Run (random : RandomSource) : List (Pairing × Call) → Pairing → Prop
  | start : Run random [] { random := random }
  | next {past : List (Pairing × Call)} {p : Pairing} (run : Run random past p) (call : Call) :
      Run random (past ++ [(p, call)]) (p.perform call)

/-- What a script of calls comes to. -/
def history (p : Pairing) : List Call → List (Pairing × Call)
  | [] => []
  | call :: calls => (p, call) :: (p.perform call).history calls

theorem Run.calls {random : RandomSource} {past : List (Pairing × Call)} {p : Pairing}
    (run : Run random past p) (calls : List Call) :
    Run random (past ++ p.history calls) (calls.foldl perform p) := by
  induction calls generalizing past p with
  | nil => exact (List.append_nil past).symm ▸ run
  | cons call calls ih =>
    rw [history, List.append_cons]
    exact ih (run.next call)

/-- The run of a script of calls. -/
theorem Run.script (random : RandomSource) (calls : List Call) :
    Run random (history { random := random } calls) (calls.foldl perform { random := random }) :=
  Run.start.calls calls

/-- The prompt that a request has for the user. -/
def asks (event : Pairing × Call) : Option PairingPrompt :=
  match event.2 with
  | .requestPasskey => some (.passkey event.1.random.code)
  | .requestComparison value => some (.comparison (value % codeBound))
  | .complete .. | .close _ | .respond _ | .nextMessage => none

/-- The prompt that a request leaves to be read: none if too many messages wait already. -/
def posts (event : Pairing × Call) : Option PairingPrompt :=
  if event.1.messages.length < messageCapacity then asks event else none

/-- The prompt that the user has read. -/
def reads (event : Pairing × Call) : Option PairingPrompt :=
  match event.2 with
  | .nextMessage => event.1.nextMessage.1.bind PairingMessage.prompt?
  | .requestPasskey | .requestComparison _ | .complete .. | .close _ | .respond _ => none

/-- The prompts that have not been read, the oldest first. -/
def prompts (p : Pairing) : List PairingPrompt := p.messages.filterMap PairingMessage.prompt?

variable (p : Pairing)

theorem post_prompts (message : PairingMessage) : (p.post message).prompts =
    p.prompts ++ (if p.messages.length < messageCapacity then message.prompt? else none).toList := by
  by_cases room : p.messages.length < messageCapacity
  · rw [post, if_pos room, if_pos room]
    exact List.filterMap_append
  · rw [post, if_neg room, if_neg room]
    exact (List.append_nil _).symm

theorem close_prompts (reason : PairingEnd) : (p.close reason).prompts = p.prompts := by
  unfold close
  split
  · simp only [post_prompts, PairingMessage.prompt?, ite_self, Option.toList_none,
      List.append_nil]
  · rfl

theorem respond_prompts (answer : PairingAnswer) : (p.respond answer).2.prompts = p.prompts := by
  have closed (reason : PairingEnd) := close_prompts { p with question := none } reason
  unfold respond
  dsimp only
  split
  · rfl
  · exact closed _
  · exact closed _
  · exact closed _
  · rfl
  · exact closed _

/-- A call takes a prompt that it reads from the front, and puts one that it posts to the back. -/
theorem perform_prompts (call : Call) :
    (reads (p, call)).toList ++ (p.perform call).prompts =
      p.prompts ++ (posts (p, call)).toList := by
  have unposted (kept : (p.perform call).prompts = p.prompts) (none : asks (p, call) = none) :
      (p.perform call).prompts = p.prompts ++ (posts (p, call)).toList := by
    simp only [kept, posts, none, ite_self, Option.toList_none, List.append_nil]
  cases call with
  | requestPasskey | requestComparison => exact post_prompts _ _
  | complete | close => exact unposted (p.close_prompts _) rfl
  | respond answer => exact unposted (p.respond_prompts answer) rfl
  | nextMessage =>
    have none : posts (p, .nextMessage) = none := ite_self none
    rw [none, Option.toList_none, List.append_nil]
    simp only [reads, perform, nextMessage, prompts]
    split
    · rename_i empty
      rw [empty]
      rfl
    · rename_i message rest queued
      rw [queued]
      cases message <;> rfl

/-- The user reads the prompts that found room, all of them and in their order. -/
theorem Run.filterMap_posts {random : RandomSource} {past : List (Pairing × Call)} {p : Pairing}
    (run : Run random past p) :
    past.filterMap posts = past.filterMap reads ++ p.prompts := by
  induction run with
  | start => rfl
  | @next past p run call ih =>
    have single (f : Pairing × Call → Option PairingPrompt) :
        [(p, call)].filterMap f = (f (p, call)).toList := rfl
    rw [List.filterMap_append, List.filterMap_append, ih, single, single, List.append_assoc,
      List.append_assoc, p.perform_prompts]

end Pairing

end CardLink
