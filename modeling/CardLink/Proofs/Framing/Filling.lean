import CardLink.Proofs.Framing.History
import CardLink.Proofs.Framing.Reception
import CardLink.Proofs.Framing.Storage

namespace CardLink

variable {kind : LinkKind}

/-- Chunks in the order of their sequence numbers, the first of which declares this total. -/
structure Chunk.Run (kind : LinkKind) (chunks : List (List UInt8)) (channel : UInt16)
    (total : Nat) : Prop where
  sequences : chunks.map (Chunk.sequence kind) = List.range chunks.length
  tagged : ∀ chunk ∈ chunks, Chunk.tag? kind chunk = some .apdu
  channels : 0 < kind.channelWidth → ∀ chunk ∈ chunks, Endpoint.channelOf kind chunk = channel
  declared : ∀ chunk ∈ chunks.head?, Chunk.declared kind chunk = total
  fits : total ≤ messageCapacity

theorem Chunk.Run.append {chunks : List (List UInt8)} {channel : UInt16} {total : Nat}
    (run : Chunk.Run kind chunks channel total) {chunk : List UInt8}
    (tagged : Chunk.tag? kind chunk = some .apdu)
    (inOrder : Chunk.sequence kind chunk = chunks.length)
    (sameChannel : 0 < kind.channelWidth → Endpoint.channelOf kind chunk = channel)
    (declared : chunks = [] → Chunk.declared kind chunk = total) :
    Chunk.Run kind (chunks ++ [chunk]) channel total where
  sequences := by
    rw [List.map_append, run.sequences, List.length_append, List.length_singleton,
      List.range_succ, List.map_singleton, inOrder]
  tagged := by
    intro other member
    rcases List.mem_append.mp member with old | new
    · exact run.tagged other old
    · cases List.mem_singleton.mp new
      exact tagged
  channels := by
    intro wide other member
    rcases List.mem_append.mp member with old | new
    · exact run.channels wide other old
    · cases List.mem_singleton.mp new
      exact sameChannel wide
  declared := by
    cases chunks with
    | nil =>
      intro other head
      cases Option.some.inj head
      exact declared rfl
    | cons first rest => exact run.declared
  fits := run.fits

namespace Endpoint

/-- The reception under way has taken in exactly these chunks. -/
structure Filling (e : Endpoint kind) (chunks : List (List UInt8)) : Prop where
  run : Chunk.Run kind chunks e.session.channel e.session.total
  expected : e.session.expected = chunks.length
  stored : e.Stored (chunks.flatMap (Chunk.payload kind))
  grown : chunks.length ≤ e.session.cursor
  pending : chunks ≠ [] → 0 < e.session.remaining

/-- A first chunk that fits opens an empty reception. -/
theorem filling_opened {e : Endpoint kind} {chunk : List UInt8}
    (fits : Chunk.declared kind chunk ≤ messageCapacity) : (e.opened chunk).Filling [] where
  run := ⟨rfl, fun _ member => (nomatch member), fun _ _ member => (nomatch member),
    fun _ head => (nomatch head), fits⟩
  expected := rfl
  stored := ⟨rfl, Nat.zero_add _, rfl⟩
  grown := Nat.le_refl 0
  pending := fun some => absurd rfl some

theorem Filling.same {e after : Endpoint kind} {chunks : List (List UInt8)}
    (filling : e.Filling chunks) (same : SameReception e after) : after.Filling chunks where
  run := by
    rw [same.channel, same.total]
    exact filling.run
  expected := same.expected.trans filling.expected
  stored := {
    cursor := same.cursor.trans filling.stored.cursor
    balance := by
      rw [same.cursor, same.remaining, same.total]
      exact filling.stored.balance
    buffered := by
      rw [same.cursor, same.buffer]
      exact filling.stored.buffered }
  grown := by
    rw [same.cursor]
    exact filling.grown
  pending := by
    rw [same.remaining]
    exact filling.pending

/-- A chunk in its turn is taken in. -/
theorem Filling.more {e : Endpoint kind} {chunks : List (List UInt8)} {chunk : List UInt8}
    (filling : e.Filling chunks)
    (run : Chunk.Run kind (chunks ++ [chunk]) e.session.channel e.session.total)
    (carries : Chunk.payload kind chunk ≠ [])
    (short : (Chunk.payload kind chunk).length < e.session.remaining) :
    (e.store (Chunk.payload kind chunk)).1 = .needMore ∧
      (e.store (Chunk.payload kind chunk)).2.Filling (chunks ++ [chunk]) := by
  obtain ⟨answer, session, stored⟩ := filling.stored.more short
  have capacity : messageCapacity = 260 := rfl
  have fits := run.fits
  have grown := filling.grown
  have balance := filling.stored.balance
  have positive := List.length_pos_iff.mpr carries
  have left : ¬e.session.remaining - (Chunk.payload kind chunk).length = 0 := by omega
  refine ⟨answer, ?_, ?_, ?_, ?_, ?_⟩
  · rw [session]
    exact run
  · -- The sequence number cannot wrap: every chunk so far has brought at least one byte.
    simp only [session, Session.advance, left, if_false, nextSequence, filling.expected,
      List.length_append, List.length_singleton]
    omega
  · rw [List.flatMap_append, List.flatMap_singleton]
    exact stored
  · simp only [session, Session.advance, List.length_append, List.length_singleton]
    omega
  · intro _
    simp only [session, Session.advance]
    omega

end Endpoint

end CardLink
