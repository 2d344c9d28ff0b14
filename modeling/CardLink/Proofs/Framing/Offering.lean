import CardLink.Framing.Sink

namespace CardLink.Sink

/-- Chunks one after the other, until one fails. -/
def transmitAll (s : Sink) : List (List UInt8) → Except SendError Unit × Sink
  | [] => (.ok (), s)
  | chunk :: rest =>
    match s.transmit chunk with
    | (.error error, s) => (.error (.link error), s)
    | (.ok (), s) => s.transmitAll rest

/-- The error that awaits the chunk offered after this many others, if one does. -/
def failure (s : Sink) (number : Nat) : Option WriteError := s.outcomes[number]?.join

theorem transmit_chunks (s : Sink) (chunk : List UInt8) :
    (s.transmit chunk).2.chunks = s.chunks ++ [chunk] := by
  unfold transmit
  split <;> simp [chunks]

theorem transmit_failure (s : Sink) (chunk : List UInt8) (number : Nat) :
    (s.transmit chunk).2.failure number = s.failure (number + 1) := by
  rcases s with ⟨_ | ⟨_ | error, rest⟩, offered⟩ <;> rfl

variable {s : Sink} {chunk : List UInt8}

theorem transmitAll_cons_failed {error : WriteError} (fails : s.failure 0 = some error)
    (rest : List (List UInt8)) :
    s.transmitAll (chunk :: rest) = (.error (.link error), (s.transmit chunk).2) := by
  rcases s with ⟨_ | ⟨_ | other, outcomes⟩, offered⟩
  · cases fails
  · cases fails
  · cases fails
    rfl

theorem transmitAll_cons_passed (passes : s.failure 0 = none) (rest : List (List UInt8)) :
    s.transmitAll (chunk :: rest) = (s.transmit chunk).2.transmitAll rest := by
  rcases s with ⟨_ | ⟨_ | other, outcomes⟩, offered⟩
  · rfl
  · rfl
  · cases passes

/-- A chunk is offered unless one before it has failed, so the first one always is. -/
theorem transmitAll_chunks (s : Sink) (chunks : List (List UInt8)) :
    ∃ sent unsent, chunks = sent ++ unsent ∧ (s.transmitAll chunks).2.chunks = s.chunks ++ sent ∧
      (sent = [] → chunks = []) := by
  induction chunks generalizing s with
  | nil => exact ⟨[], [], rfl, (List.append_nil _).symm, id⟩
  | cons chunk rest ih =>
    have offered := s.transmit_chunks chunk
    unfold transmitAll
    split <;> rename_i after outcome <;> rw [outcome] at offered
    · exact ⟨[chunk], rest, rfl, offered, nofun⟩
    · obtain ⟨sent, unsent, rfl, more, -⟩ := ih after
      refine ⟨chunk :: sent, unsent, rfl, ?_, nofun⟩
      rw [more, offered, List.append_assoc]
      rfl

theorem transmitAll_passed {chunks : List (List UInt8)}
    (passes : ∀ number < chunks.length, s.failure number = none) :
    (s.transmitAll chunks).1 = .ok () ∧ (s.transmitAll chunks).2.chunks = s.chunks ++ chunks := by
  induction chunks generalizing s with
  | nil => exact ⟨rfl, (List.append_nil _).symm⟩
  | cons chunk rest ih =>
    have further : ∀ number < rest.length, (s.transmit chunk).2.failure number = none :=
      fun number within =>
        (s.transmit_failure chunk number).trans (passes _ (Nat.succ_lt_succ within))
    obtain ⟨result, more⟩ := ih further
    rw [transmitAll_cons_passed (passes 0 (Nat.succ_pos _))]
    refine ⟨result, ?_⟩
    rw [more, transmit_chunks, List.append_assoc]
    rfl

theorem transmitAll_willing (willing : s.outcomes = []) (chunks : List (List UInt8)) :
    (s.transmitAll chunks).1 = .ok () ∧ (s.transmitAll chunks).2.chunks = s.chunks ++ chunks :=
  transmitAll_passed fun number _ => by rw [failure, willing]; rfl

/-- The first failure ends it, and the chunk that fails is the last one offered. -/
theorem transmitAll_failed {chunks : List (List UInt8)} {number : Nat} {error : WriteError}
    (within : number < chunks.length) (before : ∀ earlier < number, s.failure earlier = none)
    (fails : s.failure number = some error) :
    (s.transmitAll chunks).1 = .error (.link error) ∧
      (s.transmitAll chunks).2.chunks = s.chunks ++ chunks.take (number + 1) := by
  induction chunks generalizing s number with
  | nil => cases within
  | cons chunk rest ih =>
    cases number with
    | zero =>
      rw [transmitAll_cons_failed fails]
      exact ⟨rfl, transmit_chunks ..⟩
    | succ number =>
      have further : ∀ earlier < number, (s.transmit chunk).2.failure earlier = none :=
        fun earlier less =>
          (s.transmit_failure chunk earlier).trans (before _ (Nat.succ_lt_succ less))
      obtain ⟨result, more⟩ := ih (Nat.lt_of_succ_lt_succ within) further
        ((s.transmit_failure chunk number).trans fails)
      rw [transmitAll_cons_passed (before 0 (Nat.succ_pos _))]
      refine ⟨result, ?_⟩
      rw [more, transmit_chunks, List.append_assoc]
      rfl

/-- These chunks were offered one after the other, up to and including the first that fails. -/
structure Offered (s after : Sink) (chunks : List (List UInt8)) (result : Except SendError Unit) :
    Prop where
  failed : ∀ number < chunks.length, ∀ error,
    (∀ earlier < number, s.failure earlier = none) → s.failure number = some error →
    result = .error (.link error) ∧ after.chunks = s.chunks ++ chunks.take (number + 1)
  passed : (∀ number < chunks.length, s.failure number = none) →
    result = .ok () ∧ after.chunks = s.chunks ++ chunks

theorem transmitAll_offered (s : Sink) (chunks : List (List UInt8)) :
    s.Offered (s.transmitAll chunks).2 chunks (s.transmitAll chunks).1 where
  failed _ within _ before fails := transmitAll_failed within before fails
  passed := transmitAll_passed

end CardLink.Sink
