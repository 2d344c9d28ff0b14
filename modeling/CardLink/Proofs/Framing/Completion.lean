import CardLink.Proofs.Framing.Reassembly

namespace CardLink

variable {kind : LinkKind}

/-- The bytes are the declared number of bytes of the payloads stored by these events. The first
of the events stored the first chunk, the last of them the last. -/
structure Reassembled (since : List (Event kind)) (bytes : List UInt8) (total : Nat) : Prop where
  unbroken : Unbroken since
  run : ∃ channel, Chunk.Run kind (storedChunks since) channel total
  needed : 1 < (storedChunks since).length →
    ((storedChunks since).dropLast.flatMap (Chunk.payload kind)).length < total
  content : bytes = ((storedChunks since).flatMap (Chunk.payload kind)).take total
  length : bytes.length = total

namespace Endpoint

theorem Filling.last {e : Endpoint kind} {chunks : List (List UInt8)} {chunk : List UInt8}
    {since : List (Event kind)} (filling : e.Filling chunks) (unbroken : Unbroken since)
    (taken : storedChunks since = chunks ++ [chunk])
    (run : Chunk.Run kind (chunks ++ [chunk]) e.session.channel e.session.total)
    (enough : e.session.remaining ≤ (Chunk.payload kind chunk).length) :
    (e.store (Chunk.payload kind chunk)).1 = .complete e.session.total ∧
      ∃ bytes, (e.store (Chunk.payload kind chunk)).2.Delivered bytes ∧
        Reassembled since bytes e.session.total := by
  obtain ⟨answer, delivered, length⟩ := filling.stored.last enough
  refine ⟨answer, _, delivered, unbroken, ⟨e.session.channel, ?_⟩, ?_, ?_, length⟩
  · rw [taken]
    exact run
  · rw [taken, List.dropLast_concat, ← filling.stored.cursor, ← filling.stored.balance]
    intro several
    rw [List.length_append, List.length_singleton] at several
    have pending := filling.pending (List.length_pos_iff.mp (by omega))
    omega
  · rw [taken, List.flatMap_append, List.flatMap_singleton]

/-- A chunk that is answered as the last one of a message ends an unbroken run. -/
theorem receive_complete {events : List (Event kind)} {e : Endpoint kind} {chunk : List UInt8}
    {total : Nat} (before : e.session.expected ≠ 0 → UnderWay events e)
    (answered : (e.receive chunk).1 = .ok (.complete total)) :
    ∃ bytes older since, (e.receive chunk).2.Delivered bytes ∧
      events ++ [⟨.receive chunk, .received (.ok (.complete total))⟩] = older ++ since ∧
      Reassembled since bytes total := by
  have stored : Event.stored? (⟨.receive chunk, .received (e.receive chunk).1⟩ : Event kind) =
      some chunk := by
    rw [answered]
    rfl
  obtain ⟨d, chunks, older, since, answer, after, filling, run, carries, recorded, unbroken, taken⟩ :=
    receive_continues before stored
  rw [answered] at answer recorded
  rw [after, recorded]
  by_cases short : (Chunk.payload kind chunk).length < d.session.remaining
  · obtain ⟨waiting, -⟩ := filling.more run (carries (Nat.zero_lt_of_lt short)) short
    rw [waiting] at answer
    cases answer
  · obtain ⟨complete, bytes, delivered, reassembled⟩ :=
      filling.last unbroken taken run (Nat.le_of_not_lt short)
    rw [complete] at answer
    cases answer
    exact ⟨bytes, older, since, delivered, rfl, reassembled⟩

end Endpoint

end CardLink
