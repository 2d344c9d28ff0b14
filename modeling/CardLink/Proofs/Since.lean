namespace CardLink

variable {α : Type}

/-- What stands at one place in a list is its last entry, or stands at that place without it. -/
theorem split_append {past older newer : List α} {event first : α}
    (split : past ++ [event] = older ++ first :: newer) :
    (newer = [] ∧ older = past ∧ first = event) ∨
      ∃ between, newer = between ++ [event] ∧ past = older ++ first :: between := by
  rcases List.eq_nil_or_concat newer with rfl | ⟨between, last, rfl⟩
  · obtain ⟨rfl, same⟩ := List.append_inj' split rfl
    cases same
    exact .inl ⟨rfl, rfl, rfl⟩
  · rw [List.concat_eq_append, ← List.cons_append, ← List.append_assoc] at split
    obtain ⟨rfl, same⟩ := List.append_inj' split rfl
    cases same
    exact .inr ⟨between, List.concat_eq_append, rfl⟩

/-- An event has happened in a past in which it counts. -/
def Happened (counts : List α → α → Prop) (past : List α) : Prop :=
  ∃ older event newer, past = older ++ event :: newer ∧ counts older event

theorem not_happened_nil {counts : List α → α → Prop} : ¬Happened counts [] := by
  rintro ⟨older, event, newer, split, -⟩
  exact absurd split.symm (List.append_ne_nil_of_right_ne_nil older (List.cons_ne_nil _ _))

theorem happened_append {counts : List α → α → Prop} {past : List α} {event : α} :
    Happened counts (past ++ [event]) ↔ Happened counts past ∨ counts past event := by
  constructor
  · rintro ⟨older, first, newer, split, counted⟩
    obtain ⟨-, rfl, rfl⟩ | ⟨newer, -, rfl⟩ := split_append split
    · exact .inr counted
    · exact .inl ⟨older, first, newer, rfl, counted⟩
  · rintro (⟨older, first, newer, rfl, counted⟩ | counted)
    · exact ⟨older, first, newer ++ [event], List.append_assoc .., counted⟩
    · exact ⟨past, event, [], rfl, counted⟩

/-- An event of the one kind has happened, and none of the other kind since. -/
def Since (sets clears : α → Prop) (past : List α) : Prop :=
  ∃ older event newer, past = older ++ event :: newer ∧ sets event ∧
    ∀ later ∈ newer, ¬clears later

variable {sets clears : α → Prop}

theorem not_since_nil : ¬Since sets clears [] := by
  rintro ⟨older, event, newer, split, -⟩
  exact absurd split.symm (List.append_ne_nil_of_right_ne_nil older (List.cons_ne_nil _ _))

theorem since_append {past : List α} {event : α} :
    Since sets clears (past ++ [event]) ↔
      sets event ∨ Since sets clears past ∧ ¬clears event := by
  constructor
  · rintro ⟨older, first, newer, split, set, still⟩
    obtain ⟨-, -, rfl⟩ | ⟨newer, rfl, rfl⟩ := split_append split
    · exact .inl set
    · refine .inr ⟨⟨older, first, newer, rfl, set, ?_⟩, ?_⟩
      · exact fun later member => still later (List.mem_append_left _ member)
      · exact still _ (List.mem_append_right _ List.mem_cons_self)
  · rintro (set | ⟨⟨older, first, newer, rfl, set, still⟩, kept⟩)
    · exact ⟨past, event, [], rfl, set, fun _ none => nomatch none⟩
    · refine ⟨older, first, newer ++ [event], List.append_assoc .., set, ?_⟩
      intro later member
      rcases List.mem_append.mp member with old | new
      · exact still later old
      · cases List.mem_singleton.mp new
        exact kept

/-- What has happened and is not undone has suffered no loss since just if no loss is newer. -/
theorem since_or {losses : α → Prop} {past : List α} (fresh : ∀ event, sets event →
    clears event ∧ ¬losses event) (since : Since sets clears past) :
    Since sets (fun event => clears event ∨ losses event) past ↔ ¬Since losses clears past := by
  rcases List.eq_nil_or_concat past with rfl | ⟨earlier, last, rfl⟩
  · exact absurd since not_since_nil
  · rw [List.concat_eq_append] at since ⊢
    rw [since_append] at since
    rw [since_append, since_append]
    rcases since with set | ⟨standing, kept⟩
    · simp [set, fresh last set]
    · have unset : ¬sets last := fun set => kept (fresh last set).1
      simp only [unset, kept, since_or fresh standing, false_or, not_false_eq_true, and_true,
        not_or]
      exact and_comm
termination_by past.length

end CardLink
