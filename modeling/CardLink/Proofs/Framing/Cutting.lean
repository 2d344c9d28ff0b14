import CardLink.Proofs.Framing.Chunk

namespace CardLink

/-- The chunk length with room for one payload byte in a first chunk. -/
def LinkKind.leastChunkLength (kind : LinkKind) : Nat := kind.channelWidth + 6

/-- A change of the chunk length. Only a negotiated link has any. -/
inductive LengthChange : LinkKind → Type
  | exchanged (mtu : Nat) : LengthChange .negotiated
  | reverted (initial : Nat) : LengthChange .negotiated

namespace LengthChange

variable {kind : LinkKind}

def apply : LengthChange kind → Layout kind → Layout kind
  | exchanged mtu, layout => layout.setAttMtu mtu
  | reverted initial, layout => layout.resetMtu initial

/-- The change leaves room for a first chunk under this ceiling. -/
def Roomy (ceiling : Nat) : LengthChange kind → Prop
  | exchanged _ => 6 ≤ ceiling
  | reverted initial => 6 ≤ min initial ceiling

instance (ceiling : Nat) (change : LengthChange kind) : Decidable (change.Roomy ceiling) :=
  match change with
  | exchanged _ => inferInstanceAs (Decidable (6 ≤ ceiling))
  | reverted initial => inferInstanceAs (Decidable (6 ≤ min initial ceiling))

theorem apply_ceiling (change : LengthChange kind) (layout : Layout kind) :
    (change.apply layout).ceiling = layout.ceiling := by
  cases change <;> rfl

theorem Roomy.least_le {change : LengthChange kind} {layout : Layout kind}
    (roomy : change.Roomy layout.ceiling) :
    kind.leastChunkLength ≤ (change.apply layout).chunkLength := by
  cases change with
  | exchanged mtu =>
    have ceiling : 6 ≤ layout.ceiling := roomy
    show 6 ≤ min layout.ceiling (max 6 (mtu - 3))
    omega
  | reverted initial => exact roomy

end LengthChange

namespace Endpoint

variable {kind : LinkKind}

def retune (e : Endpoint kind) (changes : List (LengthChange kind)) : Endpoint kind :=
  { e with layout := changes.foldl (fun layout change => change.apply layout) e.layout }

@[simp]
theorem retune_send (e : Endpoint kind) (changes : List (LengthChange kind)) :
    (e.retune changes).send = e.send := rfl

theorem retune_cons (e : Endpoint kind) (change : LengthChange kind)
    (changes : List (LengthChange kind)) :
    e.retune (change :: changes) = (e.retune [change]).retune changes := rfl

/-- A roomy layout, and roomy changes only, leave a roomy layout under the same ceiling. -/
theorem retune_roomy {changes : List (LengthChange kind)} {e : Endpoint kind}
    (room : kind.leastChunkLength ≤ e.chunkLength)
    (roomy : ∀ change ∈ changes, change.Roomy e.layout.ceiling) :
    kind.leastChunkLength ≤ (e.retune changes).chunkLength ∧
      (e.retune changes).layout.ceiling = e.layout.ceiling := by
  induction changes generalizing e with
  | nil => exact ⟨room, rfl⟩
  | cons change changes ih =>
    have head := roomy change (List.mem_cons_self ..)
    have ceiling : (e.retune [change]).layout.ceiling = e.layout.ceiling :=
      change.apply_ceiling e.layout
    have tail := ih (e := e.retune [change]) head.least_le fun later member => by
      rw [ceiling]
      exact roomy later (List.mem_cons_of_mem _ member)
    rw [retune_cons]
    exact ⟨tail.1, tail.2.trans ceiling⟩

def nextCount (e : Endpoint kind) : Nat :=
  min (e.chunkLength - e.messageHeader.length) e.send.remaining

def advanced (e : Endpoint kind) (count : Nat) : Endpoint kind :=
  { e with send := { e.send with
      offset := e.send.offset + count
      sequence := nextSequence e.send.sequence
      active := decide (0 < e.send.remaining - count) } }

theorem messageHeader_eq (e : Endpoint kind) :
    e.messageHeader = Chunk.header kind e.session.channel e.send.sequence e.send.length := by
  unfold messageHeader controlHeader Chunk.header
  split <;> simp

/-- A chunk is cut off only while the send is active, and it takes a byte unless none is left. -/
theorem nextChunk_some {e after : Endpoint kind} {data chunk : List UInt8}
    (taken : e.nextChunk data = (some chunk, after)) :
    e.send.active = true ∧ (0 < e.nextCount ∨ e.send.remaining = 0) ∧
      chunk = e.pad (e.messageHeader ++ (data.drop e.send.offset).take e.nextCount) ∧
      after = e.advanced e.nextCount := by
  unfold nextChunk at taken
  split at taken
  · rename_i active
    dsimp only at taken
    split at taken
    · cases taken
    · rename_i progress
      split at taken
      · cases taken
      · cases taken
        refine ⟨active, ?_, rfl, rfl⟩
        unfold nextCount
        omega
  · cases taken

/-- No more is cut off than there is. -/
theorem nextChunk_within {e after : Endpoint kind} {data chunk : List UInt8}
    (taken : e.nextChunk data = (some chunk, after)) :
    e.send.offset + e.nextCount ≤ data.length := by
  unfold nextChunk at taken
  split at taken
  · dsimp only at taken
    split at taken
    · cases taken
    · split at taken
      · cases taken
      · rename_i inside
        exact Nat.not_lt.mp inside
  · cases taken

theorem nextChunk_active {e : Endpoint kind} {data : List UInt8} (active : e.send.active = true)
    (length : e.send.length = data.length) (within : e.send.offset ≤ data.length)
    (room : kind.leastChunkLength ≤ e.chunkLength) :
    e.nextChunk data =
      (some (e.pad (e.messageHeader ++ (data.drop e.send.offset).take e.nextCount)),
        e.advanced e.nextCount) := by
  have header : e.messageHeader.length ≤ kind.channelWidth + 5 := by
    rw [messageHeader_eq, Chunk.header_length]
    unfold LinkKind.headerLength
    split <;> omega
  have remaining : e.send.remaining = data.length - e.send.offset := by
    rw [SendProgress.remaining, length]
  unfold LinkKind.leastChunkLength at room
  have progress : ¬(e.nextCount = 0 ∧ 0 < e.send.remaining) := by
    unfold nextCount
    omega
  have inside : ¬data.length < e.send.offset + e.nextCount := by
    unfold nextCount
    omega
  unfold nextCount at progress inside ⊢
  simp only [nextChunk, active, progress, inside, if_true, if_false, advanced]

/-- An upper bound on the chunks that are left; an empty message has one. -/
def chunksLeft (e : Endpoint kind) : Nat := if e.send.active then e.send.remaining + 1 else 0

theorem chunksLeft_advanced {e after : Endpoint kind} {data chunk : List UInt8}
    (taken : e.nextChunk data = (some chunk, after)) : after.chunksLeft < e.chunksLeft := by
  obtain ⟨active, progress, -, rfl⟩ := nextChunk_some taken
  unfold SendProgress.remaining at progress
  unfold chunksLeft advanced SendProgress.remaining
  by_cases more : 0 < e.send.length - e.send.offset - e.nextCount
  · simp only [active, more, decide_true, if_true]
    omega
  · simp [active, more]

/-- The chunks of a message, until the sender gives none. The chunk length changes as given before
each call. -/
def cut (data : List UInt8) (changes : Nat → List (LengthChange kind)) (call : Nat)
    (e : Endpoint kind) : List (List UInt8) :=
  match taken : (e.retune (changes call)).nextChunk data with
  | (none, _) => []
  | (some chunk, after) => chunk :: cut data changes (call + 1) after
termination_by e.chunksLeft
decreasing_by
  show after.chunksLeft < (e.retune (changes call)).chunksLeft
  exact chunksLeft_advanced taken

end Endpoint

end CardLink
