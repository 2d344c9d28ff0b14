import CardLink.Proofs.Requester.Listening

namespace CardLink

/-- What the log shows of a request with this answer. -/
def Request.acts (request : Request) : Except CommandError (List UInt8) → List PlatformAct
  | .error (.link _) => [.refused request.frame]
  | .error .busy | .error .malformed => []
  | _ => [.wrote request.frame]

theorem Request.acts_of_written (request : Request) {error : CommandError}
    (written : error.unwritten = false) : request.acts (.error error) = [.wrote request.frame] := by
  cases error <;> first | rfl | cases written

namespace Platform

theorem accept_log (p : Platform) (frame : List UInt8) :
    (p.accept frame).log = .wrote frame :: p.log := by
  unfold accept
  dsimp only
  split
  · rfl
  · split <;> rfl

theorem send_log (p : Platform) (frame : List UInt8) :
    (∃ error after, p.send frame = (.error error, after) ∧ after.log = .refused frame :: p.log) ∨
      ∃ after, p.send frame = (.ok (), after) ∧ after.log = .wrote frame :: p.log := by
  match outcomes : p.outcomes with
  | [] => exact .inr ⟨_, by simp only [send, outcomes], p.accept_log frame⟩
  | none :: rest =>
    exact .inr ⟨_, by simp only [send, outcomes], accept_log { p with outcomes := rest } frame⟩
  | some error :: rest => exact .inl ⟨error, _, by simp only [send, outcomes]; rfl, rfl⟩

/-- How many of the events still to come are of this kind, the completions aside that the platform
makes of its own accord. -/
def remaining (kind : PlatformEvent → Bool) (p : Platform) : Nat := p.scripted.countP kind

theorem remaining_le (kind : PlatformEvent → Bool) (p : Platform) :
    p.remaining kind ≤ p.scripted.length := List.countP_le_length

/-- The rule that answers a command hands its events over. -/
theorem countP_eraseP (kind : PlatformEvent → Bool) {fits : ReplyRule → Bool}
    {rules : List ReplyRule} {rule : ReplyRule} (found : rules.find? fits = some rule) :
    rule.events.countP kind + ((rules.eraseP fits).flatMap ReplyRule.events).countP kind =
      (rules.flatMap ReplyRule.events).countP kind := by
  induction rules with
  | nil => cases found
  | cons first rest ih =>
    rw [List.find?_cons] at found
    split at found
    · rename_i here
      cases found
      rw [List.eraseP_cons_of_pos here, List.flatMap_cons, List.countP_append]
    · rename_i elsewhere
      rw [List.eraseP_cons_of_neg (by simp [elsewhere])]
      simp only [List.flatMap_cons, List.countP_append]
      have := ih found
      omega

theorem accept_remaining (p : Platform) {kind : PlatformEvent → Bool} (frame : List UInt8)
    (other : ∀ opcode handles, kind (.hci (completion opcode handles)) = false) :
    (p.accept frame).remaining kind = p.remaining kind := by
  unfold accept
  dsimp only
  split
  · rename_i rule found
    have spent := countP_eraseP kind found
    simp only [remaining, scripted, List.countP_append] at spent ⊢
    omega
  · split
    · simp only [remaining, scripted, List.countP_append, List.countP_cons, List.countP_nil, other]
      rfl
    · rfl

theorem send_remaining (p : Platform) {kind : PlatformEvent → Bool} (frame : List UInt8)
    (other : ∀ opcode handles, kind (.hci (completion opcode handles)) = false) :
    (p.send frame).2.remaining kind = p.remaining kind := by
  unfold send
  split
  · exact p.accept_remaining frame other
  · exact accept_remaining _ frame other
  · rfl

end Platform

namespace Requester

variable {σ : Type}

theorem issue_log (r : Requester) (request : Request) (p : Platform) :
    (∃ error after, r.issue request p = (.error error, after) ∧
      after.log = request.acts (.error error) ++ p.log) ∨
    ∃ issued after, r.issue request p = (.ok issued, after) ∧
      after.log = .wrote request.frame :: p.log := by
  unfold issue
  by_cases busy : r.busy = true
  · exact .inl ⟨.busy, p, if_pos busy, rfl⟩
  · rw [if_neg busy]
    by_cases long : 255 < request.params.length
    · exact .inl ⟨.malformed, p, by rw [Frame.build, if_pos long], rfl⟩
    · have built : Frame.build request.opcode request.params = .ok request.frame := if_neg long
      rw [built]
      rcases p.send_log request.frame with ⟨error, after, send, log⟩ | ⟨after, send, log⟩
      · exact .inl ⟨.link error, after, by simp only [send], log⟩
      · exact .inr ⟨_, after, by simp only [send]; rfl, log⟩

/-- A request logs one act at most. -/
theorem ask_log (r : Requester) (listener : Listener σ) (request : Request) (p : Platform)
    (s : σ) : (r.ask listener request p s).2.2.1.log =
      request.acts (r.ask listener request p s).1 ++ p.log := by
  rcases r.issue_log request p with ⟨error, after, issue, log⟩ | ⟨issued, after, issue, log⟩
  · simp only [ask, issue]
    exact log
  · simp only [ask, issue]
    cases answer : (wait listener request after.queue issued s).answer with
    | ok reply => exact log
    | error error =>
      rw [request.acts_of_written (wait_answer answer)]
      exact log

theorem issue_remaining (r : Requester) (request : Request) (p : Platform)
    {kind : PlatformEvent → Bool}
    (other : ∀ opcode handles, kind (.hci (Platform.completion opcode handles)) = false) :
    (r.issue request p).2.remaining kind = p.remaining kind := by
  unfold issue
  split
  · rfl
  · split
    · rfl
    · rename_i frame _
      have sent := p.send_remaining frame other
      split <;> rename_i shape <;> rw [shape] at sent <;> exact sent

/-- Only a packet gives a reply. -/
theorem decides_kind {request : Request} {period ticks : Nat} {event : PlatformEvent}
    {kind : PlatformEvent → Bool} {reply : List UInt8}
    (decides : ∀ raw, request.read raw = .decided (.ok reply) → kind (.hci raw) = true)
    (decision : request.decision period ticks event = some (.ok reply)) : kind event = true := by
  cases event with
  | hci raw =>
    simp only [Request.decision] at decision
    split at decision
    · rename_i read
      cases decision
      exact decides raw read
    · cases decision
  | tick =>
    simp only [Request.decision] at decision
    split at decision <;> cases decision
  | usb | other => cases decision

/-- An answer that only events of one kind can give uses up one of them. -/
theorem Reach.ask_spends {r : Requester} {size period : Nat} (reach : Reach size period r)
    (positive : 0 < size) (listener : Listener σ) {request : Request} (p : Platform) (s : σ)
    {kind : PlatformEvent → Bool}
    (other : ∀ opcode handles, kind (.hci (Platform.completion opcode handles)) = false)
    {reply : List UInt8} (answered : (r.ask listener request p s).1 = .ok reply)
    (decides : ∀ raw, request.read raw = .decided (.ok reply) → kind (.hci raw) = true) :
    (r.ask listener request p s).2.2.1.remaining kind < p.remaining kind := by
  have same := r.issue_remaining request p other
  unfold ask at answered ⊢
  split at answered
  · cases answered
  · rename_i sent written issued
    rw [issued] at same
    have waiting := (reach.resting positive).issue issued
    obtain ⟨answer, taken, rest, after, decided, -, waited⟩ :=
      waiting.decided positive listener written.queue s
    dsimp only at answered ⊢
    rw [waited] at answered ⊢
    have answered : answer = .ok reply := answered
    rw [answered] at decided
    rw [← same]
    simp only [Platform.remaining, Platform.scripted, List.countP_append]
    refine Nat.add_lt_add_right ?_ _
    obtain ⟨before, event, split, decision⟩ : ∃ before event,
        written.queue = before ++ event :: rest ∧ kind event = true := by
      generalize written.queue = queue at decided
      cases decided with
      | @first before _ event _ undecided decision =>
        exact ⟨before, event, rfl, decides_kind decides decision⟩
    rw [split, List.countP_append, List.countP_cons_of_pos decision]
    omega

end Requester

end CardLink
