import CardLink.Settings

namespace CardLink

variable {α : Type} {refused : α → Bool}

/-- All tries and the last of them, when this many retries have been counted before. -/
inductive Retried (policy : RetryPolicy) (refused : α → Bool) : Nat → List α → α → Prop
  | ended {count : Nat} {last : α}
      (spent : refused last = true → policy.allows (min 65535 (count + 1)) = false) :
      Retried policy refused count [last] last
  | again {count : Nat} {first last : α} {tries : List α} (full : refused first = true)
      (allowed : policy.allows (min 65535 (count + 1)) = true)
      (rest : Retried policy refused (min 65535 (count + 1)) tries last) :
      Retried policy refused count (first :: tries) last

theorem Retried.once {policy : RetryPolicy} {count : Nat} {last : α}
    (taken : refused last = false) : Retried policy refused count [last] last :=
  .ended fun full => absurd (taken.symm.trans full) Bool.false_ne_true

/-- Each try but the last is refused, and the last one only when the retries are used up. -/
structure Bounded (attempts : Nat) (refused : α → Bool) (tries : List α) (last : α) : Prop where
  repeated : ∃ before, tries = before ++ [last] ∧ ∀ t ∈ before, refused t = true
  most : tries.length ≤ attempts + 1
  exhausted_iff : refused last = true ↔
    tries.length = attempts + 1 ∧ ∀ t ∈ tries, refused t = true

theorem Bounded.ended {attempts : Nat} {last : α} (spent : refused last = true → attempts = 0) :
    Bounded attempts refused [last] last where
  repeated := ⟨[], rfl, nofun⟩
  most := Nat.le_add_left 1 attempts
  exhausted_iff := by
    constructor
    · intro full
      rw [spent full]
      exact ⟨rfl, fun t member => List.mem_singleton.mp member ▸ full⟩
    · rintro ⟨-, all⟩
      exact all last (.head _)

theorem Bounded.again {attempts : Nat} {first last : α} {tries : List α}
    (full : refused first = true) (rest : Bounded attempts refused tries last) :
    Bounded (attempts + 1) refused (first :: tries) last where
  repeated := by
    obtain ⟨before, rfl, all⟩ := rest.repeated
    exact ⟨first :: before, rfl, List.forall_mem_cons.mpr ⟨full, all⟩⟩
  most := Nat.succ_le_succ rest.most
  exhausted_iff := by
    rw [rest.exhausted_iff, List.forall_mem_cons, List.length_cons, Nat.add_right_cancel_iff]
    exact ⟨fun ⟨length, all⟩ => ⟨length, full, all⟩, fun ⟨length, _, all⟩ => ⟨length, all⟩⟩

variable {attempts : UInt16} {backoff : UInt32} {count : Nat} {tries : List α} {last : α}

/-- A bound below the largest value of the count is kept. -/
theorem Retried.bounded (retried : Retried (.bounded attempts backoff) refused count tries last)
    (below : attempts.toNat < 65535) (within : count ≤ attempts.toNat) :
    Bounded (attempts.toNat - count) refused tries last := by
  induction retried with
  | ended spent =>
    refine .ended fun full => ?_
    have forbidden := of_decide_eq_false (spent full)
    omega
  | @again count first last tries full allowed rest ih =>
    have more := of_decide_eq_true allowed
    have counted : min 65535 (count + 1) = count + 1 := by omega
    rw [counted] at more ih
    have left : attempts.toNat - count = attempts.toNat - (count + 1) + 1 := by omega
    rw [left]
    exact (ih more).again full

/-- The count cannot get past its largest value, so a bound of that value is none. -/
theorem Retried.unbounded (retried : Retried (.bounded 0xFFFF backoff) refused count tries last) :
    refused last = false := by
  induction retried with
  | @ended count last spent =>
    refine Bool.eq_false_iff.mpr fun full => ?_
    have forbidden : ¬min 65535 (count + 1) ≤ 65535 := of_decide_eq_false (spent full)
    omega
  | again _ _ _ ih => exact ih

theorem Retried.nonempty {policy : RetryPolicy}
    (retried : Retried policy refused count tries last) : tries ≠ [] := by
  cases retried <;> exact List.cons_ne_nil _ _

theorem Retried.last_mem {policy : RetryPolicy}
    (retried : Retried policy refused count tries last) : last ∈ tries := by
  induction retried with
  | ended => exact .head _
  | again _ _ _ ih => exact .tail _ ih

end CardLink
