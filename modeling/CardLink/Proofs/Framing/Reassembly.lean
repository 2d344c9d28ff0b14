import CardLink.Proofs.Framing.Filling

namespace CardLink

variable {kind : LinkKind}

/-- The chunk that an event stored. -/
def Event.stored? : Event kind → Option (List UInt8)
  | ⟨.receive chunk, .received (.ok .needMore)⟩ => some chunk
  | ⟨.receive chunk, .received (.ok (.complete _))⟩ => some chunk
  | _ => none

/-- The event drops a reception under way: a refused chunk, the host starting over or giving up, a
reset. -/
def Event.Disturbs : Event kind → Prop
  | ⟨.receive _, .received (.error _)⟩ => True
  | ⟨.receive chunk, _⟩ =>
    Chunk.tag? kind chunk = some .init ∨ Chunk.tag? kind chunk = some .abort
  | ⟨.reset, _⟩ | ⟨.resetReception, _⟩ => True
  | _ => False

theorem Operation.KeepsReception.calm {operation : Operation kind}
    (keeps : operation.KeepsReception) (outcome : Outcome) :
    ¬Event.Disturbs ⟨operation, outcome⟩ ∧ Event.stored? ⟨operation, outcome⟩ = none := by
  cases operation <;> first | exact keeps.elim | exact ⟨id, rfl⟩

def storedChunks (events : List (Event kind)) : List (List UInt8) :=
  events.filterMap Event.stored?

/-- The events from a stored chunk on, none of which drops a reception. -/
structure Unbroken (since : List (Event kind)) : Prop where
  opened : ∃ chunk, since.head?.bind Event.stored? = some chunk
  undisturbed : ∀ event ∈ since, ¬event.Disturbs

theorem Unbroken.append {since : List (Event kind)} (unbroken : Unbroken since)
    (event : Event kind) (calm : ¬event.Disturbs) : Unbroken (since ++ [event]) where
  opened := by
    cases since with
    | nil =>
      obtain ⟨_, none⟩ := unbroken.opened
      cases none
    | cons first rest => exact unbroken.opened
  undisturbed := by
    intro other member
    rcases List.mem_append.mp member with old | new
    · exact unbroken.undisturbed other old
    · cases List.mem_singleton.mp new
      exact calm

theorem Unbroken.single {event : Event kind} {chunk : List UInt8}
    (stored : event.stored? = some chunk) (calm : ¬event.Disturbs) : Unbroken [event] :=
  ⟨⟨chunk, stored⟩, fun _ member => List.mem_singleton.mp member ▸ calm⟩

/-- Since some event an unbroken run of chunks has been received, and it is not complete. -/
def UnderWay (events : List (Event kind)) (e : Endpoint kind) : Prop :=
  ∃ before since, events = before ++ since ∧ Unbroken since ∧ e.Filling (storedChunks since)

theorem UnderWay.pass {events : List (Event kind)} {e after : Endpoint kind} {event : Event kind}
    (underWay : UnderWay events e) (same : e.SameReception after) (calm : ¬event.Disturbs)
    (unstored : event.stored? = none) : UnderWay (events ++ [event]) after := by
  obtain ⟨before, since, rfl, unbroken, filling⟩ := underWay
  refine ⟨before, since ++ [event], List.append_assoc .., unbroken.append event calm, ?_⟩
  rw [storedChunks, List.filterMap_append, List.filterMap_cons_none unstored, List.filterMap_nil,
    List.append_nil]
  exact filling.same same

theorem storedChunks_append (events : List (Event kind)) {event : Event kind} {chunk : List UInt8}
    (stored : event.stored? = some chunk) :
    storedChunks (events ++ [event]) = storedChunks events ++ [chunk] := by
  rw [storedChunks, List.filterMap_append, List.filterMap_cons_some stored, List.filterMap_nil]
  rfl

namespace Endpoint

theorem answer_received (e : Endpoint kind) (reply : List UInt8) :
    (∃ chunk, (e.answer reply).1 = .reply chunk) ∨ (e.answer reply).1 = .deferred := by
  unfold answer
  split
  · exact .inl ⟨_, rfl⟩
  · exact .inr rfl

theorem store_stored (e : Endpoint kind) (chunk payload : List UInt8) :
    Event.stored? (⟨.receive chunk, .received (.ok (e.store payload).1)⟩ : Event kind) =
      some chunk := by
  simp only [store]
  split <;> rfl

/-- A chunk that is stored opens an unbroken run or continues one. -/
theorem receive_continues {events : List (Event kind)} {e : Endpoint kind} {chunk : List UInt8}
    (before : e.session.expected ≠ 0 → UnderWay events e)
    (stored : Event.stored? (⟨.receive chunk, .received (e.receive chunk).1⟩ : Event kind) =
      some chunk) :
    ∃ (d : Endpoint kind) (chunks : List (List UInt8)) (older since : List (Event kind)),
      (e.receive chunk).1 = .ok (d.store (Chunk.payload kind chunk)).1 ∧
      (e.receive chunk).2 = (d.store (Chunk.payload kind chunk)).2 ∧
      d.Filling chunks ∧
      Chunk.Run kind (chunks ++ [chunk]) d.session.channel d.session.total ∧
      (0 < d.session.remaining → Chunk.payload kind chunk ≠ []) ∧
      events ++ [⟨.receive chunk, .received (e.receive chunk).1⟩] = older ++ since ∧
      Unbroken since ∧ storedChunks since = chunks ++ [chunk] := by
  have reception := receive_reception e chunk
  generalize (e.receive chunk).1 = answer at *
  generalize (e.receive chunk).2 = after at *
  cases reception with
  | refused | unknown | allocated | dropped | aborted => cases stored
  | restarted tagged =>
    rcases answer_received e.restart (e.echo chunk) with ⟨reply, answer⟩ | answer <;>
      rw [answer] at stored <;> cases stored
  | answered reply tagged =>
    rcases answer_received e reply with ⟨reply, answer⟩ | answer <;>
      rw [answer] at stored <;> cases stored
  | first tagged free idle opening whole fits carries =>
    have filling := filling_opened (e := e) fits
    have run := filling.run.append tagged opening (fun _ => rfl) fun _ => rfl
    have calm : ¬Event.Disturbs (⟨.receive chunk,
        .received (.ok ((e.opened chunk).store (Chunk.payload kind chunk)).1)⟩ : Event kind) := by
      simp [Event.Disturbs, tagged]
    exact ⟨e.opened chunk, [], events, _, rfl, rfl, filling, run, carries, rfl,
      .single stored calm, storedChunks_append [] stored⟩
  | next tagged free underWay inOrder sameChannel carries =>
    obtain ⟨older, since, rfl, unbroken, filling⟩ := before underWay
    have started : storedChunks since ≠ [] := by
      rw [← List.length_pos_iff, ← filling.expected]
      exact Nat.pos_of_ne_zero underWay
    have run := filling.run.append tagged (inOrder.trans filling.expected) sameChannel
      fun none => absurd none started
    have calm : ¬Event.Disturbs (⟨.receive chunk,
        .received (.ok (e.store (Chunk.payload kind chunk)).1)⟩ : Event kind) := by
      simp [Event.Disturbs, tagged]
    exact ⟨e, storedChunks since, older, _, rfl, rfl, filling, run, fun _ => carries,
      List.append_assoc .., unbroken.append _ calm, storedChunks_append since stored⟩

/-- Wherever a chunk leaves a reception under way, it belongs to an unbroken run. -/
theorem underWay_receive {events : List (Event kind)} {e : Endpoint kind} {chunk : List UInt8}
    (before : e.session.expected ≠ 0 → UnderWay events e)
    (waiting : (e.receive chunk).2.session.expected ≠ 0) :
    UnderWay (events ++ [⟨.receive chunk, .received (e.receive chunk).1⟩])
      (e.receive chunk).2 := by
  by_cases stored : Event.stored?
      (⟨.receive chunk, .received (e.receive chunk).1⟩ : Event kind) = some chunk
  · obtain ⟨d, chunks, older, since, -, after, filling, run, carries, recorded, unbroken, taken⟩ :=
      receive_continues before stored
    rw [after] at waiting ⊢
    rw [recorded]
    by_cases short : (Chunk.payload kind chunk).length < d.session.remaining
    · obtain ⟨-, filling⟩ := filling.more run (carries (Nat.zero_lt_of_lt short)) short
      exact ⟨older, since, rfl, unbroken, taken.symm ▸ filling⟩
    · -- The last chunk ends the reception, so nothing is under way after it.
      have last := filling.stored.last (Nat.le_of_not_lt short)
      exact absurd last.2.1.idle waiting
  have reception := receive_reception e chunk
  generalize (e.receive chunk).1 = answer at *
  generalize (e.receive chunk).2 = after at *
  cases reception with
  | refused | aborted => exact absurd rfl waiting
  | unknown untagged =>
    refine (before waiting).pass (.refl e) ?_ rfl
    simp [Event.Disturbs, untagged]
  | allocated tagged | dropped tagged =>
    refine (before waiting).pass (.refl e) ?_ rfl
    simp [Event.Disturbs, tagged]
  | restarted tagged =>
    have same := answer_sameReception e.restart (e.echo chunk)
    exact absurd same.expected waiting
  | answered reply tagged =>
    have same := answer_sameReception e reply
    refine (before (same.expected ▸ waiting)).pass same ?_ ?_
    · rcases tagged with tagged | tagged | tagged <;> simp [Event.Disturbs, tagged]
    · rcases answer_received e reply with ⟨reply', answer⟩ | answer <;> rw [answer] <;> rfl
  | first | next => exact absurd (store_stored _ _ _) stored

theorem History.underWay {layout : Layout kind} {events : List (Event kind)} {e : Endpoint kind}
    (history : History { layout := layout } events e) (waiting : e.session.expected ≠ 0) :
    UnderWay events e := by
  induction history with
  | start => exact absurd rfl waiting
  | @next events e history operation ih =>
    rcases operation.keepsReception_or with keeps | ⟨chunk, rfl⟩ | rfl | rfl
    · have same := operate_sameReception (e := e) keeps
      obtain ⟨calm, unstored⟩ := keeps.calm (e.operate operation).1
      exact (ih (same.expected ▸ waiting)).pass same calm unstored
    · exact underWay_receive ih waiting
    · exact absurd rfl waiting
    · exact absurd rfl waiting

end Endpoint

end CardLink
