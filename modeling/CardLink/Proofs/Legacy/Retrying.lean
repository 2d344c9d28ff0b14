import CardLink.Proofs.Legacy.Resting
import CardLink.Proofs.Policy
import CardLink.Proofs.Requester.Spending

namespace CardLink.Legacy

/-- The event tells an update that no buffer is free. -/
def reportsFull : PlatformEvent → Bool
  | .hci raw =>
    match (updateRequest []).read raw with
    | .decided (.ok reply) => reply.head? == some statusInsufficientResources
    | _ => false
  | .tick | .usb _ | .other => false

/-- A command that the platform completes by itself finds a buffer. -/
theorem not_reportsFull_completion (opcode : UInt16) (handles : List UInt8) :
    reportsFull (.hci (Platform.completion opcode handles)) = false := by
  have low := Word.join_split opcode
  have read : (updateRequest []).read (Platform.completion opcode handles) =
      if (0x04 : UInt8) = 0x04 ∧ (UInt8.ofNat (4 + handles.length)).toNat =
          (0x01 :: Word.little opcode ++ 0x00 :: handles).length then
        if Word.join (UInt8.ofNat (opcode.toNat / 256)) (UInt8.ofNat opcode.toNat) =
          Command.updateCharValue.opcode then .decided (.ok [0x00]) else .unsolicited
      else .malformed := rfl
  rw [reportsFull, read]
  split
  · rename_i reply read
    split at read
    · split at read <;> cases read
      rfl
    · cases read
  · rfl

namespace Update

/-- The outcome of an update that no other one follows. -/
def outcome (u : Update) : Except WriteError Unit :=
  match u.answer with
  | .error error => .error (writeError error)
  | .ok [] => .ok ()
  | .ok (status :: _) =>
    if status = 0 then .ok ()
    else if status = statusInsufficientResources then .error .retriesExhausted
    else .error (.status status)

/-- What the log shows of an update. -/
def acts (u : Update) : List PlatformAct := (updateRequest u.params).acts u.answer

end Update

namespace Link

variable {l : Link} {attempts : UInt16} {backoff : UInt32} {params : List UInt8}

theorem write_log (l : Link) (params : List UInt8) : (l.write params).2.platform.log =
    Update.acts ⟨params, (l.write params).1⟩ ++ l.platform.log :=
  Requester.ask_log _ _ _ _ _

/-- An update that finds no buffer has used up an event that says so. -/
theorem write_spends (rests : l.Rests)
    (full : Update.refused ⟨params, (l.write params).1⟩ = true) :
    (l.write params).2.platform.remaining reportsFull < l.platform.remaining reportsFull := by
  obtain ⟨period, reach⟩ := rests
  unfold Update.refused at full
  split at full
  · rename_i reply answered
    refine reach.ask_spends (by decide) _ _ _ not_reportsFull_completion answered ?_
    intro raw read
    have read : (updateRequest []).read raw = .decided (.ok reply) := read
    simp only [reportsFull, read, full]
  · cases full

theorem waitTxPool_bounded (policy : l.settings.legacyRetry = .bounded attempts backoff) :
    l.waitTxPool = (.ok (), { l with platform := l.platform.pause backoff.toNat }) := by
  simp only [waitTxPool, policy]

/-- The updates of a value are logged with one wait before each but the first. The last one
decides. -/
structure Updated (backoff : UInt32) (l : Link) (out : Except WriteError Unit × Link)
    (updates : List Update) (last : Update) : Prop where
  result : out.1 = last.outcome
  logged : out.2.platform.log.reverse = l.platform.log.reverse ++
    ((updates.map Update.acts).intersperse [.paused backoff.toNat]).flatten

theorem updated_once (backoff : UInt32) (l : Link) (params : List UInt8)
    {result : Except WriteError Unit}
    (decided : result = Update.outcome ⟨params, (l.write params).1⟩) :
    Updated backoff l (result, (l.write params).2) [⟨params, (l.write params).1⟩]
      ⟨params, (l.write params).1⟩ where
  result := decided
  logged := by
    have one : (Update.acts ⟨params, (l.write params).1⟩).reverse =
        Update.acts ⟨params, (l.write params).1⟩ := by
      unfold Update.acts Request.acts
      split <;> rfl
    rw [write_log, List.reverse_append, one]
    exact congrArg _ (List.append_nil _).symm

theorem Updated.again {out : Except WriteError Unit × Link} {updates : List Update} {last : Update}
    (rest : Updated backoff { (l.write params).2 with
      platform := (l.write params).2.platform.pause backoff.toNat } out updates last)
    (some : updates ≠ []) :
    Updated backoff l out (⟨params, (l.write params).1⟩ :: updates) last where
  result := rest.result
  logged := by
    obtain ⟨next, later, rfl⟩ := List.exists_cons_of_ne_nil some
    have one := (updated_once backoff l params rfl).logged
    dsimp only at one
    rw [rest.logged, Platform.pause, List.reverse_cons, one]
    simp

section

variable {count : Nat} (rounds : Nat)

/-- A refused update is written anew after a wait. -/
theorem updateWithin_again (policy : l.settings.legacyRetry = .bounded attempts backoff)
    (full : Update.refused ⟨params, (l.write params).1⟩ = true)
    (allowed : l.settings.legacyRetry.allows (min 65535 (count + 1)) = true) :
    let paused := { (l.write params).2 with
      platform := (l.write params).2.platform.pause backoff.toNat }
    updateWithin params (rounds + 1) count l =
        updateWithin params rounds (min 65535 (count + 1)) paused ∧
      updateUpdates params (rounds + 1) count l =
        ⟨params, (l.write params).1⟩ ::
          updateUpdates params rounds (min 65535 (count + 1)) paused := by
  have kept : (l.write params).2.settings.legacyRetry = .bounded attempts backoff := policy
  have allowed : (l.write params).2.settings.legacyRetry.allows (min 65535 (count + 1)) = true :=
    allowed
  simp only [updateUpdates, updateWithin]
  rw [show ask _ _ params 1 = l.write params from rfl]
  generalize l.write params = out at *
  obtain ⟨answer, after⟩ := out
  unfold Update.refused at full
  cases answer with
  | error => cases full
  | ok statuses =>
    cases statuses with
    | nil => cases full
    | cons status =>
      have full : status = statusInsufficientResources := Option.some.inj (beq_iff_eq.mp full)
      have untaken : status ≠ 0 := full ▸ (by decide)
      simp only [if_neg untaken, if_pos full, if_pos allowed, waitTxPool_bounded kept, and_self]

/-- Any other update is the last one. -/
theorem updateWithin_ended (spent : Update.refused ⟨params, (l.write params).1⟩ = true →
      l.settings.legacyRetry.allows (min 65535 (count + 1)) = false) :
    updateWithin params (rounds + 1) count l =
        (Update.outcome ⟨params, (l.write params).1⟩, (l.write params).2) ∧
      updateUpdates params (rounds + 1) count l = [⟨params, (l.write params).1⟩] := by
  have spent : Update.refused ⟨params, (l.write params).1⟩ = true →
    (l.write params).2.settings.legacyRetry.allows (min 65535 (count + 1)) = false := spent
  simp only [updateUpdates, updateWithin]
  rw [show ask _ _ params 1 = l.write params from rfl]
  generalize l.write params = out at *
  obtain ⟨answer, after⟩ := out
  cases answer with
  | error => exact ⟨rfl, rfl⟩
  | ok statuses =>
    cases statuses with
    | nil => exact ⟨rfl, rfl⟩
    | cons status =>
      simp only [Update.outcome]
      by_cases taken : status = 0
      · simp only [if_pos taken, and_self]
      · by_cases full : status = statusInsufficientResources
        · have forbidden := spent (beq_iff_eq.mpr (congrArg some full))
          simp only [if_neg taken, if_pos full, forbidden, Bool.false_eq_true, if_false, and_self]
        · simp only [if_neg taken, if_neg full, and_self]

end

/-- The bound on the rounds is never what ends them: each refusal uses up an event. -/
theorem updateWithin_retried (rounds count : Nat) (rests : l.Rests)
    (policy : l.settings.legacyRetry = .bounded attempts backoff)
    (enough : l.platform.remaining reportsFull < rounds) :
    ∃ last, Retried (.bounded attempts backoff) Update.refused count
        (updateUpdates params rounds count l) last ∧
      Updated backoff l (updateWithin params rounds count l)
        (updateUpdates params rounds count l) last := by
  induction rounds generalizing count l with
  | zero => exact absurd enough (Nat.not_lt_zero _)
  | succ rounds ih =>
    by_cases full : Update.refused ⟨params, (l.write params).1⟩ = true ∧
        l.settings.legacyRetry.allows (min 65535 (count + 1)) = true
    · obtain ⟨full, allowed⟩ := full
      obtain ⟨result, updates⟩ := updateWithin_again rounds policy full allowed
      have fewer : (l.write params).2.platform.remaining reportsFull < rounds :=
        Nat.lt_of_lt_of_le (write_spends rests full) (Nat.le_of_lt_succ enough)
      obtain ⟨last, retried, updated⟩ := ih (l := { (l.write params).2 with
        platform := (l.write params).2.platform.pause backoff.toNat }) _
        (rests_lasting.write rests params) policy fewer
      rw [result, updates]
      rw [policy] at allowed
      exact ⟨last, .again full allowed retried, updated.again retried.nonempty⟩
    · have spent : Update.refused ⟨params, (l.write params).1⟩ = true →
          l.settings.legacyRetry.allows (min 65535 (count + 1)) = false :=
        fun refused => Bool.eq_false_iff.mpr fun allowed => full ⟨refused, allowed⟩
      obtain ⟨result, updates⟩ := updateWithin_ended rounds spent
      rw [result, updates]
      rw [policy] at spent
      exact ⟨_, .ended spent, updated_once backoff l params rfl⟩

theorem updateCharValue_retried (rests : l.Rests)
    (policy : l.settings.legacyRetry = .bounded attempts backoff) (service handle : UInt16)
    (value : List UInt8) :
    ∃ last, Retried (.bounded attempts backoff) Update.refused 0
        (l.valueUpdates service handle value) last ∧
      Updated backoff l (l.updateCharValue service handle value)
        (l.valueUpdates service handle value) last :=
  updateWithin_retried _ 0 rests policy
    (Nat.lt_succ_of_le (l.platform.remaining_le reportsFull))

end Link

end CardLink.Legacy
