import CardLink.Proofs.Controller.Run
import CardLink.Proofs.Controller.Steps

namespace CardLink.Controller

/-- A disconnection came before the initialisation had run to its end, and the initialisation has
not been started again since. -/
def CutShort (past : List (Core × Input)) : Prop :=
  ∃ older c input newer, past = older ++ (c, input) :: newer ∧ c.ready = false ∧
    input.Disconnects ∧ ∀ later ∈ newer, ¬later.1.Restarts later.2

theorem cutShort_iff {past : List (Core × Input)} : CutShort past ↔
    Since (fun e => e.1.ready = false ∧ e.2.Disconnects) (fun e => e.1.Restarts e.2) past := by
  constructor
  · rintro ⟨older, c, input, newer, split, unready, disconnects, still⟩
    exact ⟨older, (c, input), newer, split, ⟨unready, disconnects⟩, still⟩
  · rintro ⟨older, ⟨c, input⟩, newer, split, ⟨unready, disconnects⟩, still⟩
    exact ⟨older, c, input, newer, split, unready, disconnects, still⟩

theorem not_cutShort_nil : ¬CutShort [] := by
  rw [cutShort_iff]
  exact not_since_nil

theorem cutShort_append {past : List (Core × Input)} {c : Core} {input : Input} :
    CutShort (past ++ [(c, input)]) ↔
      c.ready = false ∧ input.Disconnects ∨ CutShort past ∧ ¬c.Restarts input := by
  rw [cutShort_iff, cutShort_iff, since_append]

/-- How the phase, the readiness and a cut go together. -/
structure Standing.Sound (s : Standing) (cut : Prop) : Prop where
  whole : s.ready = true →
    s.initStep = .finished ∧ (s.phase = .configuringAdvertising ∨ s.phase = .ready)
  unstarted : s.phase = .idle → s.advRequest = none ∧ ¬cut
  initializing : s.phase = .initializing → ¬cut
  settled : s.phase = .configuringAdvertising ∨ s.phase = .ready → (s.ready = true ↔ ¬cut)

theorem cut_of_continues {c : Core} {input : Input} {cut : Prop} (continues : ¬c.Restarts input)
    (connected : ¬input.Disconnects) :
    (c.ready = false ∧ input.Disconnects ∨ cut ∧ ¬c.Restarts input) ↔ cut := by
  simp only [continues, connected, and_false, not_false_eq_true, and_true, false_or]

theorem Standing.Sound.move {c : Core} {input : Input} {after : Standing} {cut : Prop}
    (sound : c.standing.Sound cut) (move : c.Move input after) :
    after.Sound (c.ready = false ∧ input.Disconnects ∨ cut ∧ ¬c.Restarts input) := by
  have whole : c.ready = true →
      c.initStep = .finished ∧ (c.phase = .configuringAdvertising ∨ c.phase = .ready) :=
    sound.whole
  have unready (phase : ¬(c.phase = .configuringAdvertising ∨ c.phase = .ready)) :
      c.ready = false := Bool.eq_false_iff.mpr fun ready => phase (whole ready).2
  cases move with
  | restarted restarts connected =>
    have uncut : ¬(c.ready = false ∧ input.Disconnects ∨ cut ∧ ¬c.Restarts input) := by
      rintro (⟨-, disconnects⟩ | ⟨-, continues⟩)
      · exact connected disconnects
      · exact continues restarts
    exact ⟨nofun, nofun, fun _ => uncut,
      fun up => up.elim nofun nofun⟩
  | @disconnected phase continues disconnects up =>
    -- The phase moves on whatever the readiness is: this input alone can make a cut.
    refine ⟨fun ready => ⟨(whole ready).1, up⟩, fun idle => ?_, fun initializing => ?_, fun _ => ?_⟩
    · have idle : phase = .idle := idle
      simp [idle] at up
    · have initializing : phase = .initializing := initializing
      simp [initializing] at up
    · have settled (ready : c.ready = true) : ¬cut := (sound.settled (whole ready).2).mp ready
      constructor
      · rintro ready (⟨unready, -⟩ | ⟨short, -⟩)
        · exact absurd (ready.symm.trans unready) (by decide)
        · exact settled ready short
      · intro uncut
        exact Decidable.byContradiction fun unready =>
          uncut (.inl ⟨Bool.eq_false_iff.mpr unready, disconnects⟩)
  | kept continues connected =>
    rw [cut_of_continues continues connected]
    exact sound
  | requested on continues connected ready =>
    rw [cut_of_continues continues connected]
    refine ⟨whole, fun idle => ?_, sound.initializing, sound.settled⟩
    have idle : c.phase = .idle := idle
    have up := (whole ready).2
    simp [idle] at up
  | switched continues connected settled =>
    rw [cut_of_continues continues connected]
    exact ⟨whole, fun idle => ⟨rfl, (sound.unstarted idle).2⟩, sound.initializing, sound.settled⟩
  | @renamed phase continues connected settled disabling up =>
    rw [cut_of_continues continues connected]
    have ready : c.phase = .ready := by
      refine settled.resolve_left fun idle => ?_
      exact absurd (disabling.symm.trans (sound.unstarted idle).1) (by decide)
    refine ⟨fun set => ⟨(whole set).1, up⟩, fun idle => ?_, fun initializing => ?_,
      fun _ => sound.settled (.inr ready)⟩
    · have idle : phase = .idle := idle
      simp [idle] at up
    · have initializing : phase = .initializing := initializing
      simp [initializing] at up
  | dropped continues connected running =>
    exact ⟨nofun, nofun,
      nofun, fun up => up.elim nofun nofun⟩
  | advanced step continues connected initializing =>
    rw [cut_of_continues continues connected]
    have unready : c.ready = false := unready (by simp [initializing])
    refine ⟨fun ready => ?_, sound.unstarted, sound.initializing, sound.settled⟩
    exact absurd (unready.symm.trans ready) (by decide)
  | initialized continues connected initializing =>
    rw [cut_of_continues continues connected]
    exact ⟨fun _ => ⟨rfl, .inr rfl⟩, nofun, nofun,
      fun _ => iff_of_true rfl (sound.initializing initializing)⟩
  | advertised continues connected configuring =>
    rw [cut_of_continues continues connected]
    exact ⟨fun ready => ⟨(whole ready).1, .inr rfl⟩, nofun,
      nofun, fun _ => sound.settled (.inl configuring)⟩

/-- Nothing is cut short where an initialisation has just begun. -/
theorem sound_begun : Standing.Sound ⟨.initializing, .reset, false, none⟩ (CutShort []) where
  whole ready := absurd ready (by decide)
  unstarted idle := absurd idle (by decide)
  initializing _ := not_cutShort_nil
  settled up := absurd up (by decide)

theorem Run.sound_of {initial c : Core} {past : List (Core × Input)}
    (run : Run initial past c) (sound : initial.standing.Sound (CutShort [])) :
    c.standing.Sound (CutShort past) := by
  induction run with
  | start => exact sound
  | @next past c run input ih =>
    rw [cutShort_append]
    exact ih.move (c.step_move input)

theorem Run.sound {settings : Settings} {random : RandomSource} {name : String}
    {address : List UInt8} {planeMode : Bool} {past : List (Core × Input)} {c : Core}
    (run : Run (.create settings random name address planeMode) past c) :
    c.standing.Sound (CutShort past) :=
  run.sound_of ⟨nofun, fun _ => ⟨rfl, not_cutShort_nil⟩, nofun, fun up => up.elim nofun nofun⟩

/-- The phase of readiness means that the initialisation has run to its end, except while a
disconnection that came too early has not been followed by a new initialisation. -/
theorem Run.ready_iff {settings : Settings} {random : RandomSource} {name : String}
    {address : List UInt8} {planeMode : Bool} {past : List (Core × Input)} {c : Core}
    (run : Run (.create settings random name address planeMode) past c)
    (phase : c.phase = .ready) :
    c.ready = true ∧ c.initStep = .finished ↔ ¬CutShort past := by
  have settled := run.sound.settled (.inr phase)
  constructor
  · rintro ⟨ready, -⟩
    exact settled.mp ready
  · intro uncut
    have ready := settled.mpr uncut
    exact ⟨ready, (run.sound.whole ready).1⟩

/-- An initialisation of a device that is not to advertise, from its start to its end. -/
theorem Run.ready_iff_initialized :
    let initial := Core.create .standard (.stepping 0 1) "card" [1, 2, 3, 4, 5, 6] true
    let inputs := .beginInit :: [Command.reset, .writeConfig, .gattInit, .gapInit, .setIoCapability,
      .setAuthRequirement, .addService, .addChar, .addChar, .addChar, .setTxPower, .updateAdvData,
      .setScanResponse, .updateCharValue].map Input.completed
    let c := inputs.foldl Core.step initial
    ∃ past, Run initial past c ∧ past.map Prod.snd = inputs ∧ c.phase = .ready ∧
      (c.ready = true ∧ c.initStep = .finished ↔ ¬CutShort past) := by
  intro initial inputs c
  obtain ⟨past, run, same⟩ := Run.start.inputs inputs
  have phase : c.phase = .ready := by decide +kernel
  exact ⟨past, run, same, phase, run.ready_iff phase⟩

/-- A client is lost while the initialisation has failed on its first command: the controller
goes on to its phase of readiness. -/
theorem ready_after_failure :
    let initial := Core.create .standard (.stepping 0 1) "card" [1, 2, 3, 4, 5, 6] true
    let c := [.beginInit, .commandDropped,
      .packet ⟨[0x04, 0x05, 0x04, 0x00, 0x01, 0x00, 0x13]⟩].foldl Core.step initial
    ∃ past, Run initial past c ∧ c.phase = .ready ∧ ¬(c.ready = true ∧ c.initStep = .finished) := by
  intro initial c
  obtain ⟨past, run, -⟩ := Run.start.inputs [.beginInit, .commandDropped,
    .packet ⟨[0x04, 0x05, 0x04, 0x00, 0x01, 0x00, 0x13]⟩]
  exact ⟨past, run, by decide +kernel, by decide +kernel⟩

end CardLink.Controller
