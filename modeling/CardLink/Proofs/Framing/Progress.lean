import CardLink.Proofs.Framing.Fragments
import CardLink.Proofs.Framing.Lengths

namespace CardLink.Endpoint

variable {kind : LinkKind} {settings : Settings} {e : Endpoint kind} {data : List UInt8}
  {changes : Nat → List (LengthChange kind)}

/-- The sender as a later call for a chunk finds it. The chunk length changes as given before each
call. -/
def atCall (data : List UInt8) (changes : Nat → List (LengthChange kind)) (call : Nat)
    (e : Endpoint kind) : Nat → Endpoint kind
  | 0 => e.retune (changes call)
  | later + 1 =>
    ((atCall data changes call e later).nextChunk data).2.retune (changes (call + later + 1))

theorem atCall_succ (data : List UInt8) (changes : Nat → List (LengthChange kind)) (call : Nat)
    (e : Endpoint kind) (later : Nat) : atCall data changes call e (later + 1) =
      atCall data changes (call + 1) ((e.retune (changes call)).nextChunk data).2 later := by
  induction later with
  | zero => rfl
  | succ later ih =>
    rw [atCall, ih, atCall, Nat.add_right_comm call 1 later, Nat.add_assoc call later 1]

/-- Some chunks of the message have been cut off, each with a byte at least. Another one is due
while a byte is left, and the first one in any case. -/
structure Midway (e : Endpoint kind) (data : List UInt8) : Prop where
  total : e.send.length = data.length
  within : e.send.offset ≤ data.length
  opening : e.send.sequence = 0 → e.send.offset = 0
  counted : e.send.sequence ≤ e.send.offset ∨ data.length = 0 ∧ e.send.sequence ≤ 1
  active : e.send.active = true ↔ e.send.sequence = 0 ∨ e.send.offset < data.length

theorem begun_midway (e : Endpoint kind) (data : List UInt8) :
    (e.begun data.length).Midway data :=
  ⟨rfl, Nat.zero_le _, fun _ => rfl, .inl (Nat.le_refl _), iff_of_true rfl (.inl rfl)⟩

theorem Midway.retune (midway : e.Midway data) (changes : List (LengthChange kind)) :
    (e.retune changes).Midway data :=
  ⟨midway.total, midway.within, midway.opening, midway.counted, midway.active⟩

/-- Nothing is given any more once the message is out. -/
theorem Midway.done (midway : e.Midway data) (inactive : e.send.active = false) :
    e.nextChunk data = (none, e) ∧ e.send.offset = data.length := by
  refine ⟨by simp [nextChunk, inactive], ?_⟩
  have within := midway.within
  have sent := midway.active.not.mp (Bool.eq_false_iff.mp inactive)
  omega

/-- The next chunk carries the bytes by which it takes the send further, and zeros behind the last
of them. -/
structure Advance (e : Endpoint kind) (data chunk : List UInt8) (after : Endpoint kind) :
    Prop where
  layout : after.layout = e.layout
  begun : after.send.sequence ≠ 0
  further : e.send.offset < after.send.offset ∨ data.length = 0
  carried : ∃ part zeros, Chunk.payload kind chunk = part ++ List.replicate zeros 0 ∧
    data.drop e.send.offset = part ++ data.drop after.send.offset ∧
    (kind.padded = false ∨ after.send.offset < data.length → zeros = 0)

theorem Midway.next (midway : e.Midway data) (wide : kind.leastChunkLength ≤ e.chunkLength)
    (short : data.length ≤ 65535) (active : e.send.active = true) :
    ∃ chunk after, e.nextChunk data = (some chunk, after) ∧ after.Midway data ∧
      e.Advance data chunk after := by
  obtain ⟨total, within, opening, counted, due⟩ := midway
  have due := due.mp active
  have room := Chunk.room_pos wide e.send.sequence
  have count : e.nextCount =
      min (Chunk.room kind e.chunkLength e.send.sequence) (data.length - e.send.offset) := by
    rw [nextCount, messageHeader_eq, Chunk.header_length, SendProgress.remaining, total,
      Chunk.room, Nat.sub_sub]
  have next : nextSequence e.send.sequence = e.send.sequence + 1 :=
    Nat.mod_eq_of_lt (by omega)
  have counting : nextSequence e.send.sequence ≠ 0 := next ▸ Nat.succ_ne_zero _
  have part : ((data.drop e.send.offset).take e.nextCount).length = e.nextCount := by
    rw [List.length_take, List.length_drop]
    omega
  have fill : Chunk.padding kind e.chunkLength e.send.sequence e.nextCount =
      if kind.padded then Chunk.room kind e.chunkLength e.send.sequence - e.nextCount else 0 := rfl
  refine ⟨_, e.advanced e.nextCount, nextChunk_active active total within wide, ?_, ?_⟩
  · refine ⟨total, ?_, ?_, ?_, ?_⟩
    · show e.send.offset + e.nextCount ≤ data.length
      omega
    · exact fun zero => absurd zero counting
    · show nextSequence e.send.sequence ≤ e.send.offset + e.nextCount ∨
        data.length = 0 ∧ nextSequence e.send.sequence ≤ 1
      rw [next]
      omega
    · show decide (0 < e.send.length - e.send.offset - e.nextCount) = true ↔
        nextSequence e.send.sequence = 0 ∨ e.send.offset + e.nextCount < data.length
      rw [next, decide_eq_true_iff, total]
      omega
  · refine ⟨rfl, counting, ?_, (data.drop e.send.offset).take e.nextCount,
      Chunk.padding kind e.chunkLength e.send.sequence e.nextCount, ?_, ?_, ?_⟩
    · show e.send.offset < e.send.offset + e.nextCount ∨ data.length = 0
      omega
    · rw [messageHeader_eq, pad_header, Chunk.payload_header (by omega), part]
    · show data.drop e.send.offset = _ ++ data.drop (e.send.offset + e.nextCount)
      rw [← List.drop_drop, List.take_append_drop]
    · show kind.padded = false ∨ e.send.offset + e.nextCount < data.length → _
      rw [fill]
      rintro (bare | more)
      · rw [bare]
        rfl
      · split <;> omega

theorem cut_stopped {after : Endpoint kind} {call : Nat}
    (last : (e.retune (changes call)).nextChunk data = (none, after)) :
    cut data changes call e = [] := by
  rw [cut]
  split
  · rfl
  · rename_i next
    cases last.symm.trans next

section Calls

variable (midway : e.Midway data) (sound : e.layout.Sound) (s : settings.Proportioned)
  (short : data.length ≤ 65535) (of : ∀ call, ∀ change ∈ changes call, change.Of settings)
include midway sound s short of

/-- Each call finds the sender midway, whatever the chunk length has become. -/
theorem Midway.atCall (call later : Nat) : (e.atCall data changes call later).Midway data ∧
    (e.atCall data changes call later).layout.Sound := by
  induction later with
  | zero => exact ⟨midway.retune _, retune_sound sound s (of _)⟩
  | succ later ih =>
    obtain ⟨before, fits⟩ := ih
    rw [Endpoint.atCall]
    by_cases active : (e.atCall data changes call later).send.active = true
    · obtain ⟨chunk, after, next, further, advance⟩ := before.next fits.least short active
      rw [next]
      exact ⟨further.retune _, retune_sound (advance.layout ▸ fits) s (of _)⟩
    · rw [(before.done (Bool.eq_false_iff.mpr active)).1]
      exact ⟨before.retune _, retune_sound fits s (of _)⟩

end Calls

/-- The chunks of the message are what the calls for them give, one after the other. -/
theorem Midway.cut_getElem? (midway : e.Midway data) (sound : e.layout.Sound)
    (s : settings.Proportioned) (short : data.length ≤ 65535)
    (of : ∀ call, ∀ change ∈ changes call, change.Of settings) (call later : Nat) :
    (cut data changes call e)[later]? = ((e.atCall data changes call later).nextChunk data).1 := by
  induction later generalizing e call with
  | zero =>
    rcases next : (e.retune (changes call)).nextChunk data with ⟨_ | chunk, after⟩
    · rw [cut_stopped next]
      exact (congrArg Prod.fst next).symm
    · rw [cut_cons next]
      exact (congrArg Prod.fst next).symm
  | succ later ih =>
    have inside : (e.retune (changes call)).Midway data := midway.retune _
    have fits : (e.retune (changes call)).layout.Sound := retune_sound sound s (of call)
    rw [atCall_succ]
    by_cases active : e.send.active = true
    · obtain ⟨chunk, after, next, further, advance⟩ := inside.next fits.least short active
      rw [cut_cons next, next, List.getElem?_cons_succ]
      exact ih further (advance.layout ▸ fits) (call + 1)
    · have inactive := Bool.eq_false_iff.mpr active
      have still : (e.retune (changes call)).send.active = false := inactive
      rw [(inside.done inactive).1, ← ih inside fits (call + 1), cut_inactive inactive,
        cut_inactive still]
      rfl

/-- Every chunk takes a byte, that of an empty message apart, so there are no more of them than
bytes are left; together they carry these. -/
theorem Midway.cut_chunks (midway : e.Midway data) (sound : e.layout.Sound)
    (s : settings.Proportioned) (short : data.length ≤ 65535)
    (of : ∀ call, ∀ change ∈ changes call, change.Of settings) (call : Nat) :
    (cut data changes call e).length ≤ max 1 (data.length - e.send.offset) ∧
      ∃ zeros, (cut data changes call e).flatMap (Chunk.payload kind) =
          data.drop e.send.offset ++ List.replicate zeros 0 ∧
        (kind.padded = false → zeros = 0) := by
  induction bound : e.chunksLeft using Nat.strongRecOn generalizing e call with
  | _ left ih =>
    have inside : (e.retune (changes call)).Midway data := midway.retune _
    have fits : (e.retune (changes call)).layout.Sound := retune_sound sound s (of call)
    by_cases active : e.send.active = true
    · obtain ⟨chunk, after, next, further, advance⟩ := inside.next fits.least short active
      have fewer : after.chunksLeft < (e.retune (changes call)).chunksLeft :=
        chunksLeft_advanced next
      have same : (e.retune (changes call)).chunksLeft = left := bound
      obtain ⟨few, zeros, rest, bare⟩ :=
        ih _ (same ▸ fewer) further (advance.layout ▸ fits) (call + 1) rfl
      obtain ⟨-, begun, more, part, filled, payload, carried, none⟩ := advance
      rw [retune_send] at more carried
      rw [cut_cons next, List.length_cons, List.flatMap_cons, payload, carried]
      by_cases last : after.send.offset < data.length
      · obtain rfl := none (.inr last)
        refine ⟨by omega, zeros, ?_, bare⟩
        rw [rest, List.replicate_zero, List.append_nil, List.append_assoc]
      · have inactive : after.send.active = false :=
          Bool.eq_false_iff.mpr (further.active.not.mpr (not_or.mpr ⟨begun, last⟩))
        refine ⟨?_, filled, ?_, fun unpadded => none (.inl unpadded)⟩
        · rw [cut_inactive inactive]
          exact Nat.le_max_left ..
        · rw [cut_inactive inactive, List.drop_of_length_le (Nat.not_lt.mp last), List.append_nil,
            List.flatMap_nil, List.append_nil]
    · have inactive := Bool.eq_false_iff.mpr active
      have out := (midway.done inactive).2
      rw [cut_inactive inactive, out, List.drop_length]
      exact ⟨Nat.zero_le _, 0, rfl, fun _ => rfl⟩

/-- Every call for a chunk of the message is answered with the next one, until all of it is out. -/
structure RunsOut (started : Endpoint kind) (data : List UInt8)
    (changes : Nat → List (LengthChange kind)) : Prop where
  answers : ∀ call, ((started.atCall data changes 0 call).nextChunk data).1 =
    (cut data changes 0 started)[call]?
  some : 0 < (cut data changes 0 started).length
  few : (cut data changes 0 started).length ≤ max 1 data.length
  further : ∀ call < (cut data changes 0 started).length,
    (started.atCall data changes 0 call).send.offset <
        (started.atCall data changes 0 (call + 1)).send.offset ∨ data = []
  out : ∀ call, (cut data changes 0 started).length ≤ call →
    (started.atCall data changes 0 call).send.offset = data.length
  remaining : ∀ call, (started.atCall data changes 0 call).send.remaining? =
    .ok (data.length - (started.atCall data changes 0 call).send.offset)
  payloads : ∃ zeros, (cut data changes 0 started).flatMap (Chunk.payload kind) =
    data ++ List.replicate zeros 0 ∧ (kind.padded = false → zeros = 0)

theorem begun_runsOut (sound : e.layout.Sound) (s : settings.Proportioned)
    (short : data.length ≤ 65535) (of : ∀ call, ∀ change ∈ changes call, change.Of settings) :
    (e.begun data.length).RunsOut data changes := by
  have midway := e.begun_midway data
  have fits : (e.begun data.length).layout.Sound := sound
  have reached := midway.atCall fits s short of 0
  have answers := midway.cut_getElem? fits s short of 0
  obtain ⟨few, payloads⟩ := midway.cut_chunks fits s short of 0
  refine ⟨fun call => (answers call).symm, ?_, few, ?_, ?_, ?_, payloads⟩
  · have first : (e.begun data.length).send.active = true := rfl
    obtain ⟨chunk, after, next, -⟩ := (reached 0).1.next (reached 0).2.least short first
    rw [atCall] at next
    rw [cut_cons next]
    exact Nat.succ_pos _
  · intro call within
    obtain ⟨found, sound⟩ := reached call
    have given := answers call
    rw [List.getElem?_eq_getElem within] at given
    by_cases active : ((e.begun data.length).atCall data changes 0 call).send.active = true
    · obtain ⟨chunk, after, next, -, advance⟩ := found.next sound.least short active
      rw [Endpoint.atCall, next, retune_send]
      exact advance.further.imp_right List.length_eq_zero_iff.mp
    · rw [(found.done (Bool.eq_false_iff.mpr active)).1] at given
      cases given
  · intro call past
    obtain ⟨found, sound⟩ := reached call
    have none := answers call
    rw [List.getElem?_eq_none past] at none
    by_cases active : ((e.begun data.length).atCall data changes 0 call).send.active = true
    · obtain ⟨chunk, after, next, -⟩ := found.next sound.least short active
      rw [next] at none
      cases none
    · exact (found.done (Bool.eq_false_iff.mpr active)).2
  · intro call
    obtain ⟨found, -⟩ := reached call
    have total := found.total
    have within := found.within
    rw [SendProgress.remaining?, SendProgress.remaining, total, if_neg (Nat.not_lt.mpr within)]

/-- With valid settings no link stalls on a chunk length. The initial length exists, and no change
that the settings allow is refused; a first chunk always has room for a byte, and a chunk is never
longer than any may be. So a send that begins then runs out, also if the length changes further
between its calls for chunks. -/
theorem sends_run_out (valid : settings.validate = .ok ()) :
    settings.initialChunkLength? = .ok settings.initialChunkLength ∧
    ∀ (kind : LinkKind) (history : List (LengthChange kind)),
      (∀ change ∈ history, change.Of settings) →
      ∃ layout, (settings.layout kind).changed? history = .ok layout ∧
        kind.leastChunkLength ≤ layout.chunkLength ∧ layout.chunkLength ≤ maxChunkLength ∧
        ∀ (e : Endpoint kind) (data : List UInt8) (changes : Nat → List (LengthChange kind)),
          e.layout = layout → e.isSending = false → data.length ≤ 65535 →
          (∀ call, ∀ change ∈ changes call, change.Of settings) →
          ∃ started, e.beginSend data.length = (.ok (), started) ∧
            started.RunsOut data changes := by
  have s := settings.proportioned valid
  refine ⟨s.initialChunkLength?_eq, fun kind history within => ?_⟩
  obtain ⟨changed, sound⟩ := (Layout.sound_layout s kind).changed s within
  refine ⟨_, changed, sound.least, sound.most, ?_⟩
  intro e data changes same free short of
  rw [← same] at sound
  exact ⟨_, beginSend_ok free short, begun_runsOut sound s short of⟩

/-- Three bytes in chunks of at most six, the shortest length that is valid; it stays so through
exchanges of any MTU. -/
theorem sends_run_out_shortest :
    let settings : Settings := { Settings.standard with maxMtu := 6 }
    let history : List (LengthChange .negotiated) := [.exchanged 517, .reverted 6, .exchanged 0]
    let e : Endpoint .negotiated :=
      { layout := { chunkLength := 6, ceiling := 6, negotiated := true } }
    let changes : Nat → List (LengthChange .negotiated) := fun call => [.exchanged call]
    (settings.validate = .ok () ∧ ∀ change ∈ history, change.Of settings) ∧
    settings.initialChunkLength? = .ok 6 ∧
    (settings.layout .negotiated).changed? history = .ok e.layout ∧
    LinkKind.negotiated.leastChunkLength ≤ e.chunkLength ∧ e.chunkLength ≤ maxChunkLength ∧
    ∃ started, e.beginSend 3 = (.ok (), started) ∧ started.RunsOut [1, 2, 3] changes := by
  intro settings history e changes
  have valid : settings.validate = .ok () := rfl
  have of : ∀ change ∈ history, change.Of settings := by
    intro change member
    rcases List.mem_cons.mp member with rfl | member
    · exact trivial
    rcases List.mem_cons.mp member with rfl | member
    · exact (rfl : settings.initialChunkLength? = .ok 6)
    · obtain rfl := List.mem_singleton.mp member
      exact trivial
  obtain ⟨initial, links⟩ := sends_run_out valid
  obtain ⟨layout, changed, least, most, sends⟩ := links .negotiated history of
  have same : layout = e.layout := Except.ok.inj (changed.symm.trans rfl)
  subst same
  exact ⟨⟨valid, of⟩, initial, changed, least, most,
    sends e [1, 2, 3] changes rfl rfl (by decide) fun call change member => by
      obtain rfl := List.mem_singleton.mp member
      exact trivial⟩

end CardLink.Endpoint
