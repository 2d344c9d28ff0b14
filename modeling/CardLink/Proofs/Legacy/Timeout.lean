import CardLink.Proofs.Legacy.Inputs
import Mathlib.Order.Bounds.Defs

namespace CardLink

namespace Countdown

/-- It neither runs nor waits to be noticed. -/
def Stopped (t : Countdown) : Prop := t.phase = .idle ∨ t.phase = .cancelled

variable {t : Countdown}

theorem Stopped.unarmed (stopped : t.Stopped) : t.phase ≠ .armed := fun armed => by
  rcases stopped with idle | cancelled
  · exact absurd (armed.symm.trans idle) nofun
  · exact absurd (armed.symm.trans cancelled) nofun

theorem Stopped.tick (stopped : t.Stopped) (step : Nat) : t.tick step = t := if_neg stopped.unarmed

theorem Stopped.cancel (stopped : t.Stopped) : t.cancel = t := if_neg stopped.unarmed

theorem Stopped.unexpired (stopped : t.Stopped) : t.phase ≠ .expired := fun expired => by
  rcases stopped with idle | cancelled
  · exact absurd (expired.symm.trans idle) nofun
  · exact absurd (expired.symm.trans cancelled) nofun

end Countdown

namespace Legacy

def ticks (past : List (Core × Input)) : Nat := past.countP fun e => e.2.isTick

/-- The next tick is the first that is late enough, and no message of the host has been complete. -/
structure Due (settings : Settings) (past : List (Core × Input)) : Prop where
  first : IsLeast {j | 1 ≤ j ∧ settings.connectionTimeout.toNat ≤ j * settings.tick.toNat}
    (ticks past + 1)
  silent : ∀ e ∈ past, e.1.completes e.2 = false

/-- The time is still running: it is not up, and no message of the host has been complete. -/
structure Counting (limit step : Nat) (past : List (Core × Input)) : Prop where
  early : ticks past = 0 ∨ ticks past * step < limit
  silent : ∀ e ∈ past, e.1.completes e.2 = false

theorem counting_nil (limit step : Nat) : Counting limit step [] :=
  ⟨.inl rfl, List.forall_mem_nil _⟩

theorem ticks_append (past : List (Core × Input)) (c : Core) (input : Input) :
    ticks (past ++ [(c, input)]) = ticks past + if input.isTick then 1 else 0 := by
  simp only [ticks, List.countP_append, List.countP_singleton]

theorem counting_append {limit step : Nat} {past : List (Core × Input)} {c : Core} {input : Input} :
    Counting limit step (past ++ [(c, input)]) ↔ Counting limit step past ∧
      c.completes input = false ∧ (input.isTick = true → ticks past * step + step < limit) := by
  have later : ticks past * step + step = (ticks past + 1) * step := (Nat.succ_mul _ _).symm
  rw [later]
  constructor
  · intro counting
    have early := counting.early
    rw [ticks_append] at early
    have silent := List.forall_mem_append.mp counting.silent
    refine ⟨⟨?_, silent.1⟩, silent.2 _ (.head _), ?_⟩
    · split at early
      · refine .inr (Nat.lt_of_le_of_lt (Nat.mul_le_mul_right step (Nat.le_succ _)) ?_)
        exact early.resolve_left (Nat.succ_ne_zero _)
      · exact early
    · intro tick
      rw [if_pos tick] at early
      exact early.resolve_left (Nat.succ_ne_zero _)
  · rintro ⟨counting, silent, early⟩
    refine ⟨?_, List.forall_mem_append.mpr ⟨counting.silent, ?_⟩⟩
    · rw [ticks_append]
      split
      · exact .inr (early ‹_›)
      · exact counting.early
    · exact fun e last => List.mem_singleton.mp last ▸ silent

/-- The client is there, and the time for its message is running. -/
structure Core.Clocked (limit elapsed : Nat) (c : Core) : Prop where
  timer : c.connectTimeout = ⟨limit, elapsed, .armed⟩
  connected : c.connection.isSome = true

theorem Core.Clocked.tick {c : Core} {limit elapsed : Nat} (clocked : c.Clocked limit elapsed) :
    c.connectTimeout.tick c.tick = ⟨limit, elapsed + c.tick,
      if limit ≤ elapsed + c.tick then .expired else .armed⟩ := by
  rw [clocked.timer]
  rfl

/-- A running time is up at a tick just if the tick reaches the limit. -/
theorem Core.Clocked.resets_tick {c : Core} {limit elapsed : Nat}
    (clocked : c.Clocked limit elapsed) : c.Resets .tick ↔ limit ≤ elapsed + c.tick := by
  rw [Resets, clocked.tick]
  dsimp only
  split
  · exact iff_of_true rfl ‹_›
  · exact iff_of_false nofun ‹_›

namespace Core

variable {c after : Core} {input : Input}

theorem Turns.times (turns : c.Turns input after) :
    after.tick = c.tick ∧ after.connectLimit = c.connectLimit := by
  cases turns with
  | restarted =>
    rw [restartLink, push_eq]
    exact ⟨rfl, rfl⟩
  | reset | connected | ticked | taken | served => exact ⟨rfl, rfl⟩

theorem Resets.severs (resets : c.Resets input) : c.Severs input := by
  cases input with
  | packet => exact .inl resets
  | tick | resetLink => exact resets
  | setHandles | nextAction | feed | clearPool | serve => exact resets

/-- A time that does not run is not started but by a connection. -/
theorem Turns.stopped (turns : c.Turns input after) (joined : input ≠ .tick → ¬c.Severs input)
    (stopped : c.connectTimeout.Stopped) : after.connectTimeout.Stopped := by
  cases turns with
  | restarted resets =>
    rw [restartLink, push_eq]
    exact .inl rfl
  | reset => exact .inl rfl
  | connected connects => exact absurd (.inr connects) (joined nofun)
  | ticked =>
    rw [stopped.tick]
    exact stopped
  | taken => exact stopped
  | served =>
    rw [stopped.cancel, ite_self]
    exact stopped

/-- While the time runs and is not up, each tick adds to it and nothing else does. -/
theorem Turns.clocked {limit elapsed : Nat} (turns : c.Turns input after)
    (joined : input ≠ .tick → ¬c.Severs input) (clocked : c.Clocked limit elapsed)
    (silent : c.completes input = false)
    (early : input.isTick = true → elapsed + c.tick < limit) :
    after.Clocked limit (elapsed + (if input.isTick then 1 else 0) * c.tick) := by
  cases turns with
  | restarted resets =>
    cases input with
    | tick =>
      exact absurd (clocked.resets_tick.mp resets) (Nat.not_le_of_lt (early rfl))
    | packet | resetLink | setHandles | nextAction | feed | clearPool | serve =>
      exact absurd resets.severs (joined nofun)
  | reset => exact absurd trivial (joined nofun)
  | connected connects => exact absurd (.inr connects) (joined nofun)
  | ticked timely =>
    have still : ¬limit ≤ elapsed + c.tick := mt clocked.resets_tick.mpr timely
    refine ⟨?_, clocked.connected⟩
    simp only [clocked.tick, if_neg still, Input.isTick, if_true, Nat.one_mul]
  | taken =>
    rw [show (if Input.nextAction.isTick then 1 else 0) * c.tick = 0 from Nat.zero_mul _]
    exact ⟨clocked.timer, clocked.connected⟩
  | served _ timeless =>
    have timeless : input.isTick = false := by
      cases input with
      | tick => exact absurd rfl timeless
      | packet | resetLink | setHandles | nextAction | feed | clearPool | serve => rfl
    rw [silent, timeless, if_neg Bool.false_ne_true, if_neg Bool.false_ne_true, Nat.zero_mul]
    exact ⟨clocked.timer, clocked.connected⟩

/-- A complete message stops the time, and so does the tick that reaches the limit. -/
theorem Turns.unclocked {limit elapsed : Nat} (turns : c.Turns input after)
    (joined : input ≠ .tick → ¬c.Severs input) (clocked : c.Clocked limit elapsed)
    (ended : c.completes input = true ∨ input.isTick = true ∧ limit ≤ elapsed + c.tick) :
    after.connectTimeout.Stopped := by
  cases turns with
  | restarted resets =>
    rw [restartLink, push_eq]
    exact .inl rfl
  | reset => exact .inl rfl
  | connected connects => exact absurd (.inr connects) (joined nofun)
  | ticked timely =>
    have late := ended.resolve_left Bool.false_ne_true
    exact absurd (clocked.resets_tick.mpr late.2) timely
  | taken =>
    rcases ended with complete | late
    · cases complete
    · cases late.1
  | served _ timeless =>
    have complete : c.completes input = true := ended.resolve_right fun late => by
      cases input with
      | tick => exact timeless rfl
      | packet | resetLink | setHandles | nextAction | feed | clearPool | serve => cases late.1
    rw [complete, if_pos rfl, clocked.timer]
    exact .inr rfl

end Core

section

variable {limit : Nat} {c m : Core} {later : List (Core × Input)}

theorem Run.times (run : Run c later m) : m.tick = c.tick ∧ m.connectLimit = c.connectLimit := by
  induction run with
  | start => exact ⟨rfl, rfl⟩
  | next _ input ih =>
    obtain ⟨tick, limit⟩ := (Core.step_turns _ input).times
    exact ⟨tick.trans ih.1, limit.trans ih.2⟩

/-- As long as the client stays, its time runs until it is up or a message is complete, and is not
started again. -/
theorem Run.clocked (run : Run c later m) (fresh : c.Clocked limit 0)
    (joined : ∀ e ∈ later, e.2 ≠ .tick → ¬e.1.Severs e.2) :
    Counting limit c.tick later ∧ m.Clocked limit (ticks later * c.tick) ∨
      ¬Counting limit c.tick later ∧ m.connectTimeout.Stopped := by
  induction run with
  | start =>
    rw [show ticks [] * c.tick = 0 from Nat.zero_mul _]
    exact .inl ⟨counting_nil _ _, fresh⟩
  | @next past d run input ih =>
    obtain ⟨before, last⟩ := List.forall_mem_append.mp joined
    have joined := last _ (.head _)
    have turns := d.step_turns input
    rw [counting_append]
    rw [← run.times.1] at ih ⊢
    rcases ih before with ⟨counting, clocked⟩ | ⟨ended, stopped⟩
    · by_cases still : d.completes input = false ∧
          (input.isTick = true → ticks past * d.tick + d.tick < limit)
      · refine .inl ⟨⟨counting, still⟩, ?_⟩
        rw [ticks_append, Nat.add_mul]
        exact turns.clocked joined clocked still.1 still.2
      · refine .inr ⟨fun all => still all.2, turns.unclocked joined clocked ?_⟩
        rw [Classical.not_and_iff_not_or_not, Bool.not_eq_false, Classical.not_imp,
          Nat.not_lt] at still
        exact still
    · exact .inr ⟨fun all => ended all.1, turns.stopped joined stopped⟩

/-- The least multiple that reaches the limit, but for the multiple by zero. -/
theorem isLeast_multiple_iff {limit step n : Nat} :
    IsLeast {j | 1 ≤ j ∧ limit ≤ j * step} (n + 1) ↔
      (n = 0 ∨ n * step < limit) ∧ limit ≤ n * step + step := by
  rw [← Nat.succ_mul]
  constructor
  · rintro ⟨⟨-, late⟩, least⟩
    refine ⟨Decidable.or_iff_not_imp_left.mpr fun some => Nat.lt_of_not_le fun reached => ?_, late⟩
    exact Nat.not_succ_le_self n (least ⟨Nat.pos_of_ne_zero some, reached⟩)
  · rintro ⟨early, late⟩
    refine ⟨⟨Nat.le_add_left 1 n, late⟩, ?_⟩
    rintro j ⟨positive, reached⟩
    refine Nat.lt_of_not_le fun below => ?_
    have soon := early.resolve_left (Nat.ne_of_gt (Nat.le_trans positive below))
    exact Nat.not_le_of_lt soon (Nat.le_trans reached (Nat.mul_le_mul_right step below))

theorem due_iff {settings : Settings} {past : List (Core × Input)} : Due settings past ↔
    Counting (Settings.microseconds settings.connectionTimeout)
        (Settings.microseconds settings.tick) past ∧
      Settings.microseconds settings.connectionTimeout ≤
        ticks past * Settings.microseconds settings.tick +
          Settings.microseconds settings.tick := by
  have scaled : ticks past * Settings.microseconds settings.tick =
      ticks past * settings.tick.toNat * 1000 := (Nat.mul_assoc _ _ _).symm
  constructor
  · rintro ⟨first, silent⟩
    obtain ⟨early, late⟩ := isLeast_multiple_iff.mp first
    refine ⟨⟨?_, silent⟩, ?_⟩ <;> rw [scaled] <;> unfold Settings.microseconds <;> omega
  · rintro ⟨⟨early, silent⟩, late⟩
    rw [scaled] at early late
    unfold Settings.microseconds at early late
    exact ⟨isLeast_multiple_iff.mpr ⟨by omega, by omega⟩, silent⟩

/-- A tick that ends the time resets the link and leaves a power cycle as the only action. -/
theorem Core.tick_resets (resets : m.Resets .tick) :
    (m.step .tick).connection = none ∧ (m.step .tick).established = false ∧
      (m.step .tick).endpoint.session.isIdle = true ∧ (m.step .tick).actions = [.powerCycle] := by
  have late : (m.connectTimeout.tick m.tick).phase = .expired := resets
  simp only [step, onTick, late, if_true, restartLink, push_eq]
  exact ⟨rfl, rfl, rfl, rfl⟩

theorem Core.tick_timely (timely : ¬m.Resets .tick) :
    m.step .tick = { m with connectTimeout := m.connectTimeout.tick m.tick } := by
  have timely : ¬(m.connectTimeout.tick m.tick).phase = .expired := timely
  simp only [step, onTick, timely, if_false]

theorem Core.step_connects {packet : EventPacket} (connects : Core.Connects packet) :
    ∃ handle, c.step (.packet packet) = c.onConnected handle := by
  obtain ⟨code, event, low, high, rest, params, named⟩ := connects
  refine ⟨Word.join high low, ?_⟩
  simp only [step, onPacket, code, params, onLeMeta, named]
  rfl

/-- The time of a client that has connected is the one that the settings say. -/
theorem Run.connected_clocked {settings : Settings} {past : List (Core × Input)}
    (run : Run (.create settings) past c) {packet : EventPacket} (connects : Core.Connects packet)
    (next : Run (c.step (.packet packet)) later m)
    (joined : ∀ e ∈ later, e.2 ≠ .tick → ¬e.1.Severs e.2) :
    let limit := Settings.microseconds settings.connectionTimeout
    let step := Settings.microseconds settings.tick
    m.tick = step ∧ (Counting limit step later ∧ m.Clocked limit (ticks later * step) ∨
      ¬Counting limit step later ∧ m.connectTimeout.Stopped) := by
  intro limit step
  obtain ⟨handle, connected⟩ := Core.step_connects (c := c) connects
  have fresh : (c.step (.packet packet)).Clocked limit 0 := by
    rw [connected]
    exact ⟨congrArg (Countdown.mk · 0 .armed) run.times.2, rfl⟩
  have period : (c.step (.packet packet)).tick = step := by
    rw [connected]
    exact run.times.1
  exact ⟨next.times.1.trans period, period ▸ next.clocked fresh joined⟩

/-- The next tick ends the time just if it is due, and then the client is still there. -/
theorem Run.resets_iff_due {settings : Settings} {past : List (Core × Input)}
    (run : Run (.create settings) past c) {packet : EventPacket} (connects : Core.Connects packet)
    (next : Run (c.step (.packet packet)) later m)
    (joined : ∀ e ∈ later, e.2 ≠ .tick → ¬e.1.Severs e.2) :
    (m.Resets .tick ↔ Due settings later) ∧ (m.Resets .tick → m.connection.isSome = true) := by
  obtain ⟨period, counted⟩ := run.connected_clocked connects next joined
  rcases counted with ⟨counting, clocked⟩ | ⟨ended, stopped⟩
  · rw [due_iff, clocked.resets_tick, period]
    exact ⟨(and_iff_right counting).symm, fun _ => clocked.connected⟩
  · have timely : ¬m.Resets .tick := by
      rw [Core.Resets, stopped.tick]
      exact stopped.unexpired
    exact ⟨iff_of_false timely fun due => ended (due_iff.mp due).1, fun late => absurd late timely⟩

/-- A client that has connected and is not lost or replaced is given up at one tick at most: the
first that is as late as the settings allow for a message, if the host has completed none before.
That tick resets the link and leaves a power cycle as the only action; no other tick does anything
but count. -/
theorem Run.connection_timeout {settings : Settings} {past later : List (Core × Input)} {c m : Core}
    (run : Run (.create settings) past c) {packet : EventPacket}
    (connects : Core.Connects packet) (next : Run (c.step (.packet packet)) later m)
    (joined : ∀ e ∈ later, e.2 ≠ .tick → ¬e.1.Severs e.2) :
    (Due settings later → m.connection.isSome = true ∧
      (m.step .tick).connection = none ∧ (m.step .tick).established = false ∧
      (m.step .tick).endpoint.session.isIdle = true ∧ (m.step .tick).actions = [.powerCycle]) ∧
    (¬Due settings later → ∃ timer, m.step .tick = { m with connectTimeout := timer }) ∧
    ∀ earlier d rest, later = earlier ++ (d, .tick) :: rest →
      Due settings earlier → ¬Due settings later := by
  obtain ⟨due, there⟩ := run.resets_iff_due connects next joined
  refine ⟨fun late => ⟨there (due.mpr late), Core.tick_resets (due.mpr late)⟩,
    fun early => ⟨_, Core.tick_timely (mt due.mp early)⟩, ?_⟩
  intro earlier d rest split first again
  have sooner : ticks later + 1 ≤ ticks earlier + 1 := again.first.2 first.first.1
  rw [split, ticks, ticks, List.countP_append, List.countP_cons_of_pos rfl] at sooner
  omega

end

/-- With two and a half ticks allowed, a client that has written half a message is given up at the
third tick; one that has written all of it is not. -/
theorem Run.connection_timeout_third :
    let settings := { Settings.standard with connectionTimeout := 250 }
    let created := Core.create settings
    let c := created.step (.packet Input.connected)
    let half : List Input := [.subscribed, .tick, .asked [0x05, 0x00, 0x00, 0x00, 0x02, 0x90], .tick]
    let whole := half ++ [.asked [0x05, 0x00, 0x01, 0x00]]
    Run created [] created ∧ Core.Connects Input.connected ∧
    (∀ inputs ∈ [half, whole], Run c (c.trace inputs) (inputs.foldl Core.step c) ∧
      ∀ e ∈ c.trace inputs, e.2 ≠ .tick → ¬e.1.Severs e.2) ∧
    (Due settings (c.trace half) ∧ (half.foldl Core.step c).connection.isSome = true ∧
      ((half.foldl Core.step c).step .tick).connection = none ∧
      ((half.foldl Core.step c).step .tick).established = false ∧
      ((half.foldl Core.step c).step .tick).endpoint.session.isIdle = true ∧
      ((half.foldl Core.step c).step .tick).actions = [.powerCycle]) ∧
    ¬Due settings (c.trace whole) ∧
      ∃ timer, (whole.foldl Core.step c).step .tick =
        { whole.foldl Core.step c with connectTimeout := timer } := by
  intro settings created c half whole
  have begun : Run created [] created := .start
  have connects : Core.Connects Input.connected := ⟨rfl, _, _, _, _, rfl, rfl⟩
  have vendor : ∀ input ∈ whole, input ≠ .tick →
      ∃ packet, input = .packet packet ∧ packet.code = EventCode.vendor := by
    simp only [whole, half, List.cons_append, List.nil_append, List.forall_mem_cons]
    exact ⟨fun _ => ⟨_, rfl, rfl⟩, fun other => absurd rfl other, fun _ => ⟨_, rfl, rfl⟩,
      fun other => absurd rfl other, fun _ => ⟨_, rfl, rfl⟩, nofun⟩
  have undisturbed : ∀ inputs ∈ [half, whole],
      Run c (c.trace inputs) (inputs.foldl Core.step c) ∧
        ∀ e ∈ c.trace inputs, e.2 ≠ .tick → ¬e.1.Severs e.2 := by
    intro inputs one
    refine ⟨Run.start.script inputs, fun e met timeless => ?_⟩
    have member : e.2 ∈ whole := by
      rcases List.mem_cons.mp one with rfl | same
      · exact List.mem_append_left _ (Core.mem_trace met)
      · exact List.mem_singleton.mp same ▸ Core.mem_trace met
    obtain ⟨packet, same, code⟩ := vendor e.2 member timeless
    rw [same]
    exact Core.unsevered_of_vendor code
  have due : Due settings (c.trace half) := by
    refine ⟨⟨⟨by decide, by decide⟩, ?_⟩, by decide +kernel⟩
    rintro j ⟨-, late⟩
    have late : 250 ≤ j * 100 := late
    have third : 3 ≤ j := by omega
    exact third
  have done : ¬Due settings (c.trace whole) :=
    fun late => absurd late.silent (by decide +kernel)
  obtain ⟨run, joined⟩ := undisturbed half (.head _)
  obtain ⟨run', joined'⟩ := undisturbed whole (.tail _ (.head _))
  exact ⟨begun, connects, undisturbed,
    ⟨due, (begun.connection_timeout connects run joined).1 due⟩,
    done, (begun.connection_timeout connects run' joined').2.1 done⟩

end Legacy

end CardLink
