import CardLink.Proofs.Framing.Cutting

namespace CardLink

variable {kind : LinkKind} {settings : Settings}

namespace Settings

/-- The layout with which a link of this kind is brought up. -/
def layout (s : Settings) : (kind : LinkKind) → Layout kind
  | .legacy => .legacy s.legacyChunkLength
  | .negotiated => .negotiable s.initialChunkLength s.maxMtu
  | .usb => .usb s.hidReportLength

/-- The lengths are within the bounds that the links ask for. -/
structure Proportioned (s : Settings) : Prop where
  legacy : 6 ≤ s.legacyChunkLength.toNat ∧ s.legacyChunkLength.toNat ≤ maxChunkLength
  maxMtu : 6 ≤ s.maxMtu.toNat ∧ s.maxMtu.toNat ≤ maxChunkLength
  attMtu : 23 ≤ s.defaultAttMtu.toNat
  report : 8 ≤ s.hidReportLength.toNat ∧ s.hidReportLength.toNat ≤ maxChunkLength

theorem proportioned (valid : settings.validate = .ok ()) : settings.Proportioned := by
  have sound : settings.defect? = none := by
    unfold validate at valid
    split at valid
    · cases valid
    · assumption
  unfold defect? at sound
  constructor <;> grind

theorem Proportioned.initialChunkLength?_eq (s : settings.Proportioned) :
    settings.initialChunkLength? = .ok settings.initialChunkLength := by
  have attMtu := s.attMtu
  exact if_neg (by omega)

theorem Proportioned.least_le_initial (s : settings.Proportioned) :
    6 ≤ settings.initialChunkLength := by
  have attMtu := s.attMtu
  have maxMtu := s.maxMtu
  unfold initialChunkLength
  omega

end Settings

/-- The change is one that a link with these settings makes: it follows an exchange, or goes back
to the length before any. -/
def LengthChange.Of (settings : Settings) : LengthChange kind → Prop
  | exchanged _ => True
  | reverted initial => settings.initialChunkLength? = .ok initial

/-- The change, refused where the bounds of the length are in the wrong order. -/
def LengthChange.apply? : LengthChange kind → Layout kind → Except Fault (Layout kind)
  | exchanged mtu, layout => layout.setAttMtu? mtu
  | reverted initial, layout => .ok (layout.resetMtu initial)

namespace Layout

/-- The layout after these changes, unless one of them is refused. -/
def changed? (l : Layout kind) (changes : List (LengthChange kind)) :
    Except Fault (Layout kind) :=
  changes.foldlM (fun layout change => change.apply? layout) l

/-- A chunk has room for its header and a byte, and is not longer than any may be. -/
structure Sound (l : Layout kind) : Prop where
  least : kind.leastChunkLength ≤ l.chunkLength
  most : l.chunkLength ≤ maxChunkLength
  roomy : 6 ≤ l.ceiling
  ceiling : l.ceiling ≤ maxChunkLength

/-- The shortest length that the settings allow is that of a first chunk with one byte. -/
theorem sound_layout (s : settings.Proportioned) (kind : LinkKind) :
    (settings.layout kind).Sound := by
  have most : maxChunkLength = 156 := rfl
  cases kind with
  | legacy =>
    have legacy := s.legacy
    refine ⟨?_, Nat.min_le_right .., (by decide : 6 ≤ maxChunkLength), Nat.le_refl _⟩
    show 6 ≤ min settings.legacyChunkLength.toNat maxChunkLength
    omega
  | negotiated =>
    have maxMtu := s.maxMtu
    have initial := s.least_le_initial
    have ceiling : 6 ≤ min settings.maxMtu.toNat maxChunkLength := by omega
    have limited : min settings.maxMtu.toNat maxChunkLength ≤ maxChunkLength := Nat.min_le_right ..
    exact ⟨Nat.le_min.mpr ⟨initial, ceiling⟩, Nat.le_trans (Nat.min_le_right ..) limited, ceiling,
      limited⟩
  | usb =>
    have report := s.report
    refine ⟨?_, Nat.min_le_right .., (by decide : 6 ≤ maxChunkLength), Nat.le_refl _⟩
    show 8 ≤ min settings.hidReportLength.toNat maxChunkLength
    omega

/-- No change within the settings is refused, and each keeps the length within its bounds. -/
theorem Sound.apply {l : Layout kind} (sound : l.Sound) (s : settings.Proportioned)
    {change : LengthChange kind} (of : change.Of settings) :
    change.apply? l = .ok (change.apply l) ∧ (change.apply l).Sound := by
  have roomy := sound.roomy
  cases change with
  | exchanged mtu =>
    refine ⟨if_neg (Nat.not_lt.mpr roomy), ?_, ?_, roomy, sound.ceiling⟩
    · show 6 ≤ min l.ceiling (max 6 (mtu - 3))
      omega
    · exact Nat.le_trans (Nat.min_le_left ..) sound.ceiling
  | reverted initial =>
    have same : settings.initialChunkLength = initial :=
      Except.ok.inj (s.initialChunkLength?_eq.symm.trans of)
    have least := s.least_le_initial
    refine ⟨rfl, ?_, Nat.le_trans (Nat.min_le_right ..) sound.ceiling, roomy, sound.ceiling⟩
    exact Nat.le_min.mpr ⟨same ▸ least, roomy⟩

theorem Sound.changed {l : Layout kind} (sound : l.Sound) (s : settings.Proportioned)
    {changes : List (LengthChange kind)} (of : ∀ change ∈ changes, change.Of settings) :
    l.changed? changes = .ok (changes.foldl (fun layout change => change.apply layout) l) ∧
      (changes.foldl (fun layout change => change.apply layout) l).Sound := by
  induction changes generalizing l with
  | nil => exact ⟨rfl, sound⟩
  | cons change changes ih =>
    obtain ⟨applied, still⟩ := sound.apply s (of change List.mem_cons_self)
    obtain ⟨rest, last⟩ := ih still fun later member => of later (List.mem_cons_of_mem _ member)
    refine ⟨?_, last⟩
    rw [changed?, List.foldlM_cons, applied]
    exact rest

end Layout

theorem Endpoint.retune_sound {e : Endpoint kind} (sound : e.layout.Sound)
    (s : settings.Proportioned) {changes : List (LengthChange kind)}
    (of : ∀ change ∈ changes, change.Of settings) : (e.retune changes).layout.Sound :=
  (sound.changed s of).2

end CardLink
