import CardLink.Proofs.Pairing.Run
import CardLink.Proofs.Since

namespace CardLink

/-- The reply of a user who accepts what is shown. -/
def PairingPrompt.accepted : PairingPrompt → PairingReply
  | passkey code => .passkey code
  | comparison _ => .confirm true

namespace Pairing

/-- The reply that a request is to get. A passkey that is not accepted is replaced by the next one
to be drawn. -/
def due (answer : PairingAnswer) (event : Pairing × Call) : Option PairingReply :=
  match event.2, answer with
  | .requestPasskey, .ok => some (.passkey event.1.random.code)
  | .requestPasskey, .ignore | .requestPasskey, .reject =>
    some (.passkey event.1.random.next.2.code)
  | .requestComparison _, answer => some (.confirm (answer == .ok))
  | .complete .., _ | .close _, _ | .respond _, _ | .nextMessage, _ => none

/-- No request from before is to be replied to any more: there is a new one, it has been replied to,
or the pairing is complete. -/
def Settles (event : Pairing × Call) : Prop :=
  match event.2 with
  | .requestPasskey | .requestComparison _ | .complete .. => True
  | .respond answer => (event.1.respond answer).1 ≠ none
  | .close _ | .nextMessage => False

/-- What a reply depends on. -/
structure Matter where
  question : Option PairingQuestion
  code : UInt32
  random : RandomSource

variable (p : Pairing)

def matter : Matter where
  question := p.question
  code := p.code
  random := p.random

@[simp]
theorem post_matter (message : PairingMessage) : (p.post message).matter = p.matter := by
  unfold post
  split <;> rfl

@[simp]
theorem close_matter (reason : PairingEnd) : (p.close reason).matter = p.matter := by
  unfold close
  split
  · exact p.post_matter _
  · rfl

@[simp]
theorem nextMessage_matter : p.nextMessage.2.matter = p.matter := by
  unfold nextMessage
  split <;> rfl

@[simp]
theorem post_question (message : PairingMessage) : (p.post message).question = p.question :=
  congrArg Matter.question (p.post_matter message)

@[simp]
theorem close_question (reason : PairingEnd) : (p.close reason).question = p.question :=
  congrArg Matter.question (p.close_matter reason)

theorem respond_question (answer : PairingAnswer) : (p.respond answer).2.question = none := by
  unfold respond
  dsimp only
  split
  · rfl
  · exact close_question _ _
  · exact close_question _ _
  · exact close_question _ _
  · rfl
  · exact close_question _ _

/-- The reply to what is asked: an accepted passkey is the current one, another is drawn. -/
theorem respond_reply (answer : PairingAnswer) : (p.respond answer).1 =
    match p.question, answer with
    | none, _ => none
    | some .passkey, .ok => some (.passkey p.code)
    | some .passkey, .ignore | some .passkey, .reject => some (.passkey p.random.code)
    | some .comparison, answer => some (.confirm (answer == .ok)) := by
  have closed (reason : PairingEnd) := close_matter { p with question := none } reason
  unfold respond
  cases p.question with
  | none => rfl
  | some question =>
    cases question with
    | passkey =>
      cases answer with
      | ok => exact congrArg (some ∘ PairingReply.passkey ∘ Matter.code) (closed _)
      | ignore | reject =>
        exact congrArg (some ∘ PairingReply.passkey ∘ RandomSource.code ∘ Matter.random) (closed _)
    | comparison => cases answer <;> rfl

theorem respond_congr {p after : Pairing} (same : after.matter = p.matter)
    (answer : PairingAnswer) : (after.respond answer).1 = (p.respond answer).1 := by
  have question : after.question = p.question := congrArg Matter.question same
  have code : after.code = p.code := congrArg Matter.code same
  have random : after.random = p.random := congrArg Matter.random same
  rw [respond_reply, respond_reply, question, code, random]

/-- Once the earlier requests are settled only what is asked now can be replied to. -/
theorem respond_settled {call : Call} (settles : Settles (p, call)) (answer : PairingAnswer) :
    ((p.perform call).respond answer).1 = due answer (p, call) := by
  have unasked {after : Pairing} (none : after.question = none) :
      (after.respond answer).1 = .none := by
    rw [respond_reply, none]
  cases call with
  | requestPasskey =>
    rw [perform, requestPasskey, respond_congr (post_matter _ _), respond_reply]
    cases answer <;> rfl
  | requestComparison =>
    rw [perform, requestComparison, respond_congr (post_matter _ _), respond_reply]
    cases answer <;> rfl
  | complete => exact unasked rfl
  | respond given => exact unasked (p.respond_question given)
  | close | nextMessage => exact settles.elim

/-- Everything else leaves what is asked to be replied to. -/
theorem respond_unsettled {call : Call} (unsettled : ¬Settles (p, call)) (answer : PairingAnswer) :
    ((p.perform call).respond answer).1 = (p.respond answer).1 := by
  cases call with
  | requestPasskey | requestComparison | complete => exact absurd trivial unsettled
  | close reason => exact respond_congr (p.close_matter reason) answer
  | nextMessage => exact respond_congr p.nextMessage_matter answer
  | respond given =>
    have silent : (p.respond given).1 = none := Decidable.not_not.mp unsettled
    have unasked : p.question = none := by
      rw [respond_reply] at silent
      split at silent
      case h_1 none => exact none
      all_goals cases silent
    rw [respond_reply, respond_reply, perform, p.respond_question, unasked]

theorem settles_of_due {answer : PairingAnswer} {event : Pairing × Call} {reply : PairingReply}
    (replies : due answer event = some reply) : Settles event := by
  obtain ⟨p, call⟩ := event
  cases call with
  | requestPasskey | requestComparison | complete => trivial
  | close | nextMessage | respond => cases replies

variable {random : RandomSource} {past : List (Pairing × Call)} {p : Pairing}

theorem Run.respond_iff (run : Run random past p) (answer : PairingAnswer) (reply : PairingReply) :
    (p.respond answer).1 = some reply ↔
      Since (fun event => due answer event = some reply) Settles past := by
  induction run with
  | start => exact iff_of_false nofun not_since_nil
  | @next past p run call ih =>
    rw [since_append]
    by_cases settles : Settles (p, call)
    · simp only [p.respond_settled settles, settles, not_true_eq_false, and_false, or_false]
    · have undue : due answer (p, call) ≠ some reply := fun replies =>
        settles (settles_of_due replies)
      simp only [p.respond_unsettled settles, ih, undue, settles, not_false_eq_true, and_true,
        false_or]

theorem code_lt_of_due {answer : PairingAnswer} {event : Pairing × Call} {code : UInt32}
    (replies : due answer event = some (.passkey code)) : code < codeBound := by
  obtain ⟨p, call⟩ := event
  cases call with
  | requestPasskey =>
    cases answer
    all_goals
      cases replies
      exact RandomSource.code_lt _
  | requestComparison | complete | close | respond | nextMessage => cases replies

theorem code_lt_of_asks {event : Pairing × Call} {prompt : PairingPrompt}
    (asked : asks event = some prompt) : prompt.code < codeBound := by
  obtain ⟨p, call⟩ := event
  cases call with
  | requestPasskey =>
    cases asked
    exact RandomSource.code_lt _
  | requestComparison =>
    cases asked
    exact UInt32.mod_lt _ (by decide)
  | complete | close | respond | nextMessage => cases asked

theorem asks_of_posts {event : Pairing × Call} {prompt : PairingPrompt}
    (posted : posts event = some prompt) : asks event = some prompt :=
  (Option.ite_none_right_eq_some.mp posted).2

theorem confirms_iff {answer : PairingAnswer} {event : Pairing × Call} :
    due answer event = some (.confirm true) ↔
      answer = .ok ∧ ∃ value, event.2 = .requestComparison value := by
  obtain ⟨p, call⟩ := event
  cases call with
  | requestComparison => cases answer <;> simp [due]
  | requestPasskey => cases answer <;> simp [due]
  | complete | close | respond | nextMessage => simp [due]

/-- The prompt that is read next has been asked for. -/
theorem Run.asks_of_nextMessage (run : Run random past p) {prompt : PairingPrompt}
    (next : p.nextMessage.1 = some (.request prompt)) : ∃ event ∈ past, asks event = some prompt := by
  have waiting : prompt ∈ p.prompts := by
    unfold nextMessage at next
    split at next
    · cases next
    · rename_i queued
      cases next
      exact List.mem_filterMap.mpr ⟨_, queued ▸ List.mem_cons_self, rfl⟩
  have posted : prompt ∈ past.filterMap posts := by
    rw [run.filterMap_posts]
    exact List.mem_append_right _ waiting
  obtain ⟨event, member, posted⟩ := List.mem_filterMap.mp posted
  exact ⟨event, member, asks_of_posts posted⟩

/-- The user's answer makes a reply just if there was a request, and since then neither another one
nor a reply nor the end of the pairing: the reply that this request is to get. Nothing but the
acceptance of a comparison is confirmed. All numbers have six digits. -/
theorem Run.replies_due (run : Run random past p) :
    (∀ answer reply, (p.respond answer).1 = some reply ↔
      Since (fun event => due answer event = some reply) Settles past) ∧
    (∀ answer, (p.respond answer).1 = some (.confirm true) ↔ answer = .ok ∧
      Since (fun event => ∃ value, event.2 = .requestComparison value) Settles past) ∧
    (∀ answer code, (p.respond answer).1 = some (.passkey code) → code < codeBound) ∧
    ∀ prompt, p.nextMessage.1 = some (.request prompt) → prompt.code < codeBound := by
  refine ⟨run.respond_iff, fun answer => ?_, fun answer code replies => ?_, fun prompt next => ?_⟩
  · rw [run.respond_iff]
    constructor
    · rintro ⟨older, event, newer, split, confirms, still⟩
      obtain ⟨accepts, compares⟩ := confirms_iff.mp confirms
      exact ⟨accepts, older, event, newer, split, compares, still⟩
    · rintro ⟨accepts, older, event, newer, split, compares, still⟩
      exact ⟨older, event, newer, split, confirms_iff.mpr ⟨accepts, compares⟩, still⟩
  · obtain ⟨_, _, _, _, replies, _⟩ := (run.respond_iff _ _).mp replies
    exact code_lt_of_due replies
  · obtain ⟨_, _, asked⟩ := run.asks_of_nextMessage next
    exact code_lt_of_asks asked

/-- A request is superseded and answered, and then a passkey is declined: another is sent. -/
theorem Run.replies_due_declined :
    let random := RandomSource.stepping 999999 1
    let calls := [Call.requestPasskey, .requestComparison 7654321, .respond .reject,
      .requestPasskey, .nextMessage, .close .timeout]
    let past := history { random := random } calls
    let p := calls.foldl perform { random := random }
    Run random past p ∧ (p.respond .ignore).1 = some (.passkey 1) ∧
      Since (fun event => due .ignore event = some (.passkey 1)) Settles past := by
  intro random calls past p
  have run : Run random past p := Run.script random calls
  have replies : (p.respond .ignore).1 = some (.passkey 1) := by decide +kernel
  exact ⟨run, replies, (run.replies_due.1 _ _).mp replies⟩

/-- To accept is to reply with what was asked. -/
theorem due_ok (event : Pairing × Call) :
    due .ok event = (asks event).map PairingPrompt.accepted := by
  obtain ⟨p, call⟩ := event
  cases call <;> rfl

theorem asks_of_unsettled {event : Pairing × Call} (unsettled : ¬Settles event) :
    asks event = none := by
  cases asked : asks event with
  | none => rfl
  | some prompt =>
    have due : due .ok event = some prompt.accepted := by rw [due_ok, asked]; rfl
    exact absurd (settles_of_due due) unsettled

/-- Who accepts, having read everything, accepts the latest request, and has read its prompt last if
that found room. -/
theorem Run.accepts (run : Run random past p) (drained : p.nextMessage.1 = none)
    {reply : PairingReply} (replies : (p.respond .ok).1 = some reply) :
    ∃ older asked call newer prompt, past = older ++ (asked, call) :: newer ∧
      asks (asked, call) = some prompt ∧ prompt.accepted = reply ∧
      (∀ later ∈ newer, asks later = none) ∧
      (asked.messages.length < messageCapacity →
        (past.filterMap reads).getLast? = some prompt) := by
  obtain ⟨older, ⟨asked, call⟩, newer, rfl, replies, still⟩ := (run.respond_iff _ _).mp replies
  rw [due_ok] at replies
  obtain ⟨prompt, asks, accepted⟩ := Option.map_eq_some_iff.mp replies
  have quiet : ∀ later ∈ newer, Pairing.asks later = none := fun later member =>
    asks_of_unsettled (still later member)
  refine ⟨older, asked, call, newer, prompt, rfl, asks, accepted, quiet, fun room => ?_⟩
  have unread : p.prompts = [] := by
    unfold nextMessage at drained
    split at drained
    · rename_i empty
      rw [prompts, empty]
      rfl
    · cases drained
  have posted : posts (asked, call) = some prompt := (if_pos room).trans asks
  have silent : newer.filterMap posts = [] :=
    List.filterMap_eq_nil_iff.mpr fun later member => by rw [posts, quiet later member, ite_self]
  have all := run.filterMap_posts
  rw [unread, List.append_nil] at all
  rw [← all, List.filterMap_append, List.filterMap_cons_some posted, silent,
    List.getLast?_concat]

/-- A user who has read every message confirms the latest comparison and sends the latest passkey,
and that is the request read last: unless too many messages waited for it to be shown. -/
theorem Run.accepts_read (run : Run random past p) (drained : p.nextMessage.1 = none) :
    ((p.respond .ok).1 = some (.confirm true) →
      ∃ older asked value newer, past = older ++ (asked, .requestComparison value) :: newer ∧
        (∀ later ∈ newer, asks later = none) ∧
        (asked.messages.length < messageCapacity →
          (past.filterMap reads).getLast? = some (.comparison (value % codeBound)))) ∧
    ∀ code, (p.respond .ok).1 = some (.passkey code) →
      ∃ older asked newer, past = older ++ (asked, .requestPasskey) :: newer ∧
        (∀ later ∈ newer, asks later = none) ∧
        (asked.messages.length < messageCapacity →
          (past.filterMap reads).getLast? = some (.passkey code)) := by
  constructor
  · intro replies
    obtain ⟨older, asked, call, newer, prompt, split, asks, accepted, quiet, read⟩ :=
      run.accepts drained replies
    cases call with
    | requestComparison value =>
      cases asks
      exact ⟨older, asked, value, newer, split, quiet, read⟩
    | requestPasskey =>
      cases asks
      cases accepted
    | complete | close | respond | nextMessage => cases asks
  · intro code replies
    obtain ⟨older, asked, call, newer, prompt, split, asks, accepted, quiet, read⟩ :=
      run.accepts drained replies
    cases call with
    | requestPasskey =>
      cases asks
      cases accepted
      exact ⟨older, asked, newer, split, quiet, read⟩
    | requestComparison =>
      cases asks
      cases accepted
    | complete | close | respond | nextMessage => cases asks

/-- The fourth of four waiting messages is the last to be read. -/
theorem Run.accepts_read_fourth :
    let random := RandomSource.stepping 1234567 1
    let calls := [Call.requestComparison 7654321, .close .timeout, .close .timeout,
      .requestPasskey] ++ List.replicate 4 .nextMessage
    let past := history { random := random } calls
    let p := calls.foldl perform { random := random }
    Run random past p ∧ p.nextMessage.1 = none ∧ (p.respond .ok).1 = some (.passkey 234567) ∧
      (past.filterMap reads).getLast? = some (.passkey 234567) ∧
      ∃ older asked newer, past = older ++ (asked, .requestPasskey) :: newer ∧
        (∀ later ∈ newer, asks later = none) ∧
        (asked.messages.length < messageCapacity →
          (past.filterMap reads).getLast? = some (.passkey 234567)) := by
  intro random calls past p
  have run : Run random past p := Run.script random calls
  have drained : p.nextMessage.1 = none := by decide +kernel
  have replies : (p.respond .ok).1 = some (.passkey 234567) := by decide +kernel
  exact ⟨run, drained, replies, by decide +kernel, (run.accepts_read drained).2 _ replies⟩

/-- The fifth of five requests has no room to be shown, but it is the one that is answered, whether
it is for a comparison or for a passkey. -/
theorem accepts_unread :
    let random := RandomSource.stepping 1 1
    let drain := List.replicate 4 Call.nextMessage
    let compared := [1, 2, 3, 4, 5].map Call.requestComparison ++ drain
    let drawn := List.replicate 5 Call.requestPasskey ++ drain
    let initial : Pairing := { random := random }
    (∃ past p, past = initial.history compared ∧ Run random past p ∧ p.nextMessage.1 = none ∧
      (p.respond .ok).1 = some (.confirm true) ∧
      (past.filterMap reads).getLast? = some (.comparison 4)) ∧
    ∃ past p, past = initial.history drawn ∧ Run random past p ∧ p.nextMessage.1 = none ∧
      (p.respond .ok).1 = some (.passkey 5) ∧
      (past.filterMap reads).getLast? = some (.passkey 4) := by
  intro random drain compared drawn initial
  exact ⟨⟨_, _, rfl, Run.script random compared, by decide +kernel, by decide +kernel,
      by decide +kernel⟩,
    _, _, rfl, Run.script random drawn, by decide +kernel, by decide +kernel, by decide +kernel⟩

end Pairing

end CardLink
