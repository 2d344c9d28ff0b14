import CardLink.Controller.Link
import CardLink.Proofs.Policy
import CardLink.Proofs.Requester.Spending

namespace CardLink

/-- The outcome of each write to come until the script is over, and of the first one after it. -/
def Platform.results (p : Platform) : List (Except WriteError Unit) :=
  p.outcomes.map (fun outcome => match outcome with
    | none => .ok ()
    | some error => .error error) ++ [.ok ()]

/-- The controller has no free buffer. -/
def WriteError.transient : Except WriteError Unit → Bool
  | .error .insufficientResources => true
  | _ => false

theorem WriteError.transient_iff {result : Except WriteError Unit} :
    transient result = true ↔ result = .error .insufficientResources := by
  unfold transient
  split <;> simp_all

/-- What the platform's log shows of a write. -/
def PlatformAct.ofWrite (frame : List UInt8) : Except WriteError Unit → PlatformAct
  | .ok () => .wrote frame
  | .error _ => .refused frame

/-- A write takes the next outcome. -/
theorem Platform.send_result (p : Platform) (frame : List UInt8) :
    (p.send frame).2.log = .ofWrite frame (p.send frame).1 :: p.log ∧
      (p.results = [(p.send frame).1] ∧ (p.send frame).1 = .ok () ∨
        p.results = (p.send frame).1 :: (p.send frame).2.results) := by
  unfold send
  cases outcomes : p.outcomes with
  | nil => exact ⟨p.accept_log frame, .inl ⟨by rw [results, outcomes]; rfl, rfl⟩⟩
  | cons outcome rest =>
    cases outcome with
    | none =>
      refine ⟨accept_log { p with outcomes := rest } frame, .inr ?_⟩
      have kept : (accept { p with outcomes := rest } frame).outcomes = rest := by
        unfold accept
        dsimp only
        split
        · rfl
        · split <;> rfl
      simp only [results, outcomes, kept]
      rfl
    | some error => exact ⟨rfl, .inr (by simp only [results, outcomes]; rfl)⟩

namespace Controller

section

variable {policy : RetryPolicy} {frame : List UInt8} {count : Nat} {p : Platform}

theorem writeFrame_again (refused : (p.send frame).1 = .error .insufficientResources)
    (allowed : policy.allows (min 65535 (count + 1)) = true) :
    writeFrame policy frame count p =
      writeFrame policy frame (min 65535 (count + 1)) ((p.send frame).2.backOff policy) := by
  rw [writeFrame]
  split
  · exact if_pos allowed
  · rename_i other
    exact absurd refused other

/-- Without a retry the outcome of the write is that of the frame. -/
theorem writeFrame_ended (spent : (p.send frame).1 = .error .insufficientResources →
    policy.allows (min 65535 (count + 1)) = false) :
    writeFrame policy frame count p = p.send frame := by
  rw [writeFrame]
  split
  · rename_i refused
    exact (if_neg (Bool.eq_false_iff.mp (spent refused))).trans (Prod.ext refused.symm rfl)
  · rfl

end

/-- The writes of a frame take the next outcomes of the script, and are logged with one wait before
each but the first. The last one decides. -/
structure Written (backoff : UInt32) (frame : List UInt8) (p : Platform)
    (out : Except WriteError Unit × Platform) (tries : List (Except WriteError Unit))
    (last : Except WriteError Unit) : Prop where
  scripted : tries <+: p.results
  result : out.1 = last
  logged : out.2.log.reverse = p.log.reverse ++
    (tries.map (.ofWrite frame)).intersperse (.paused backoff.toNat)

theorem written_once (backoff : UInt32) (frame : List UInt8) (p : Platform) :
    Written backoff frame p (p.send frame) [(p.send frame).1] (p.send frame).1 := by
  obtain ⟨logged, results⟩ := p.send_result frame
  refine ⟨?_, rfl, ?_⟩
  · rcases results with ⟨results, -⟩ | results
    · exact ⟨[], results.symm⟩
    · exact ⟨_, results.symm⟩
  · exact (congrArg List.reverse logged).trans List.reverse_cons

theorem Written.again {backoff : UInt32} {frame : List UInt8} {p : Platform}
    {out : Except WriteError Unit × Platform} {tries : List (Except WriteError Unit)}
    {last : Except WriteError Unit}
    (refused : (p.send frame).1 = .error .insufficientResources)
    (rest : Written backoff frame ((p.send frame).2.pause backoff.toNat) out tries last)
    (some : tries ≠ []) : Written backoff frame p out ((p.send frame).1 :: tries) last := by
  obtain ⟨logged, results⟩ := p.send_result frame
  refine ⟨?_, rest.result, ?_⟩
  · rcases results with ⟨-, taken⟩ | results
    · rw [taken] at refused
      cases refused
    · rw [results]
      exact (List.prefix_cons_inj _).mpr rest.scripted
  · obtain ⟨next, later, rfl⟩ := List.exists_cons_of_ne_nil some
    rw [rest.logged, Platform.pause, List.reverse_cons, logged, List.reverse_cons]
    simp only [List.map_cons, List.intersperse_cons_cons, List.append_assoc, List.cons_append,
      List.nil_append]

theorem writeFrame_retried (attempts : UInt16) (backoff : UInt32) (frame : List UInt8)
    (count : Nat) (p : Platform) : ∃ tries last,
      Retried (.bounded attempts backoff) WriteError.transient count tries last ∧
      Written backoff frame p (writeFrame (.bounded attempts backoff) frame count p)
        tries last := by
  induction count, p using writeFrame.induct (.bounded attempts backoff) frame with
  | case1 count p refused next allowed smaller ih =>
    obtain ⟨tries, last, retried, written⟩ := ih
    rw [writeFrame_again refused allowed]
    exact ⟨_, last, .again (WriteError.transient_iff.mpr refused) allowed retried,
      written.again refused retried.nonempty⟩
  | case2 count p refused next forbidden =>
    have spent := Bool.eq_false_iff.mpr forbidden
    rw [writeFrame_ended fun _ => spent]
    exact ⟨_, _, .ended fun _ => spent, written_once backoff frame p⟩
  | case3 count p other =>
    rw [writeFrame_ended fun refused => absurd refused other]
    exact ⟨_, _, .once (Bool.eq_false_iff.mpr (other ∘ WriteError.transient_iff.mp)),
      written_once backoff frame p⟩

end Controller

end CardLink
