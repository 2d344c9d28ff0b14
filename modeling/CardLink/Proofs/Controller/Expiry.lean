import CardLink.Proofs.Controller.Acknowledging

namespace CardLink

/-- While the countdown runs it has this limit, and has not passed it. -/
def Countdown.Within (c : Countdown) (limit : Nat) : Prop :=
  c.phase = .armed → c.limit = limit ∧ c.elapsed ≤ limit

namespace Countdown

variable {c : Countdown} {limit step : Nat}

theorem within_arm (c : Countdown) (limit : Nat) : (c.arm limit).Within limit :=
  fun _ => ⟨rfl, limit.zero_le⟩

theorem within_cancel (c : Countdown) (limit : Nat) : c.cancel.Within limit := fun armed =>
  absurd armed (beq_eq_false_iff_ne.mp c.isArmed_cancel)

theorem Within.tick (within : c.Within limit) (timely : (c.tick step).phase ≠ .expired) :
    (c.tick step).Within limit := by
  unfold Countdown.tick at *
  split
  · rename_i armed
    obtain ⟨rfl, -⟩ := within armed
    by_cases late : c.limit ≤ c.elapsed + step
    · simp [armed, late] at timely
    · exact fun _ => ⟨rfl, Nat.le_of_not_le late⟩
  · exact within

/-- No tick makes the elapsed time too long for its word. -/
theorem Within.tick?_eq (within : c.Within limit) (fits : limit + step < timeBound) :
    c.tick? step = .ok (c.tick step) := by
  refine if_neg ?_
  rintro ⟨armed, long⟩
  have early := (within armed).2
  omega

end Countdown

theorem Settings.microseconds_fit (a b : UInt32) :
    Settings.microseconds a + Settings.microseconds b < timeBound := by
  have first := a.toNat_lt
  have second := b.toNat_lt
  have bound : timeBound = 18446744073709551616 := rfl
  unfold Settings.microseconds
  omega

namespace Controller

namespace Exchange

variable {x after : Exchange}

/-- The countdown of a transfer never runs for longer than the settings say. -/
def Limited (x : Exchange) : Prop :=
  x.transferTimeout.Within (Settings.microseconds x.settings.transferTimeout)

theorem Limited.noted (limited : x.Limited) (ofMessage : Bool) (queued : List (List UInt8)) :
    (x.noted ofMessage queued).Limited := by
  cases ofMessage with
  | true => exact Countdown.within_arm x.transferTimeout _
  | false => exact limited

theorem Offered.limited {chunk : List UInt8} {ofMessage : Bool}
    (offered : x.Offered chunk ofMessage after) (limited : x.Limited) : after.Limited := by
  cases offered with
  | held => exact limited
  | queued _ queued => exact limited.noted ofMessage queued

theorem limited_cleared (x : Exchange) : x.cleared.Limited := nofun

end Exchange

open Exchange

theorem Core.Shift.limited {c : Core} {effect : Effect} {after : Exchange}
    (limited : c.exchange.Limited) (shift : c.Shift effect after) : after.Limited := by
  cases shift with
  | restarted | connected | disconnected => exact c.exchange.limited_cleared
  | subscribed | encrypted | tuned | permitted | sequenced | other | polled => exact limited
  | written permit value _ fed =>
    cases fed with
    | replied _ _ _ offered => exact offered.limited limited
    | received => exact limited
    | aborted => exact Countdown.within_cancel _ _
  | writeAcknowledged answered =>
    cases answered with
    | ignored | silent => exact limited
    | @notified _ waiting _ queued => exact Limited.noted limited waiting.ofMessage queued
  | notified acknowledged =>
    cases acknowledged with
    | ignored => exact limited
    | released _ _ _ queued => exact Limited.noted limited true queued
    | finished => exact Countdown.within_cancel _ _
  | ticked ticked =>
    cases ticked with
    | running timely => exact Countdown.Within.tick limited timely
    | expired => exact c.exchange.limited_cleared
  | sent data sent =>
    generalize (c.sendMessage data).1 = result at sent
    cases sent with
    | refused | overlong | stuck => exact limited
    | begun _ _ _ offered => exact offered.limited limited

namespace Core

variable {c : Core}

/-- Nothing is sent or received and nothing waits, so that a client that is connected can be sent
whatever there is room for. -/
structure Unoccupied (c : Core) : Prop where
  free : c.endpoint.isSending = false
  between : c.endpoint.session.isIdle = true
  unheld : c.pending = none
  accepts : c.connection.isConnected = true →
    ∀ data, data.length ≤ messageCapacity → (c.sendMessage data).1 = .ok ()

/-- A tick that ends a running countdown drops everything. -/
theorem tick_expired (armed : c.transferTimeout.phase = .armed)
    (late : c.transferTimeout.limit ≤
      c.transferTimeout.elapsed + Settings.microseconds c.settings.tick) :
    c.step .tick = c.resetTransfer := by
  simp only [step, onTick, Countdown.tick, armed, late, if_true]
  rfl

/-- A tick that does not end a running countdown brings it nearer to its end. -/
theorem tick_counted (armed : c.transferTimeout.phase = .armed)
    (early : ¬c.transferTimeout.limit ≤
      c.transferTimeout.elapsed + Settings.microseconds c.settings.tick) :
    c.step .tick = { c with transferTimeout := { c.transferTimeout with
      elapsed := c.transferTimeout.elapsed + Settings.microseconds c.settings.tick } } := by
  simp only [step, onTick, Countdown.tick, armed, early, if_true, if_false, reduceCtorEq]

/-- Ticks that add up to the limit of a running countdown have everything dropped, and what time
is left after that changes nothing more. -/
theorem idles_expired {inputs : List Input}
    (idle : ∀ input ∈ inputs, input = .tick ∨ input = .nextCommand)
    (armed : c.transferTimeout.phase = .armed) (some : 0 < inputs.countP Input.isTick)
    (enough : c.transferTimeout.limit ≤ c.transferTimeout.elapsed +
      inputs.countP Input.isTick * Settings.microseconds c.settings.tick) :
    ∃ rest timer, inputs.foldl Core.step c =
      { c.resetTransfer with outbox := rest, transferTimeout := timer } := by
  induction inputs generalizing c with
  | nil => cases some
  | cons input inputs ih =>
    have later : ∀ input ∈ inputs, input = .tick ∨ input = .nextCommand :=
      fun other member => idle other (List.mem_cons_of_mem _ member)
    rw [List.foldl_cons]
    obtain rfl | rfl := idle input List.mem_cons_self
    · rw [List.countP_cons_of_pos rfl, Nat.succ_mul] at enough
      by_cases late : c.transferTimeout.limit ≤
          c.transferTimeout.elapsed + Settings.microseconds c.settings.tick
      · have stopped : c.resetTransfer.transferTimeout.Lasts (inputs.countP Input.isTick)
            (Settings.microseconds c.settings.tick) := by
          refine ⟨fun late => ?_, fun _ armed => ?_⟩
          · cases late
          · cases armed
        obtain ⟨rest, timer, -, -, reached⟩ := idles (c := c.resetTransfer) rfl later stopped
        exact ⟨rest, timer, by rw [tick_expired armed late, reached]⟩
      · have more : 0 < inputs.countP Input.isTick := by
          refine Nat.pos_of_ne_zero fun none => late ?_
          rw [none] at enough
          omega
        rw [tick_counted armed late]
        exact ih (c := { c with transferTimeout := { c.transferTimeout with
          elapsed := c.transferTimeout.elapsed + Settings.microseconds c.settings.tick } })
          later armed more (by dsimp only; omega)
    · rw [List.countP_cons_of_neg Bool.false_ne_true] at some enough
      obtain ⟨queue, -, written⟩ := c.step_nextCommand
      rw [written]
      exact ih (c := { c with outbox := queue }) later armed some enough

end Core

section

variable {settings : Settings} {random : RandomSource} {name : String} {address : List UInt8}
  {planeMode : Bool} {past : List (Core × Input)} {c : Core}

theorem Run.limited (run : Run (.create settings random name address planeMode) past c) :
    c.exchange.Limited := by
  induction run with
  | start => exact nofun
  | next _ input ih => exact (Core.step_shift _ input).limited ih

/-- A chunk is in flight just while its countdown runs, no tick is refused, and once ticks that
nothing else comes between add up to the transfer timeout the link is free again. -/
theorem Run.chunk_expires (run : Run (.create settings random name address planeMode) past c) :
    c.chunkInFlight = c.transferTimeout.isArmed ∧
      c.transferTimeout.tick? (Settings.microseconds settings.tick) =
        .ok (c.transferTimeout.tick (Settings.microseconds settings.tick)) ∧
      (c.chunkInFlight = true → ∀ inputs : List Input,
        (∀ input ∈ inputs, input = .tick ∨ input = .nextCommand) →
        0 < inputs.countP Input.isTick →
        settings.transferTimeout.toNat ≤ inputs.countP Input.isTick * settings.tick.toNat →
        (inputs.foldl Core.step c).Unoccupied) := by
  have timed : c.chunkInFlight = c.transferTimeout.isArmed := run.steady.timed
  have same := run.settings_eq
  have within : c.transferTimeout.Within (Settings.microseconds settings.transferTimeout) := by
    have limited : c.transferTimeout.Within
      (Settings.microseconds c.settings.transferTimeout) := run.limited
    rwa [same] at limited
  refine ⟨timed, within.tick?_eq (Settings.microseconds_fit _ _), ?_⟩
  intro flying inputs idle some enough
  have armed : c.transferTimeout.phase = .armed := by
    rw [timed] at flying
    exact eq_of_beq flying
  have long : c.transferTimeout.limit ≤ c.transferTimeout.elapsed +
      inputs.countP Input.isTick * Settings.microseconds c.settings.tick := by
    rw [(within armed).1, same]
    unfold Settings.microseconds
    rw [← Nat.mul_assoc]
    omega
  obtain ⟨rest, timer, reached⟩ := Core.idles_expired idle armed some long
  rw [reached]
  exact ⟨rfl, rfl, rfl, fun client data short => Core.sendMessage_accepted client rfl short⟩

end

/-- The first chunk of a message of three is not acknowledged; its frame is written after the first
tick, and the other ticks are just enough. -/
theorem Run.chunk_expires_written :
    let initial := Core.create .standard (.stepping 0 1) "card" [1, 2, 3, 4, 5, 6] true
    let begun := Input.session ++ [.sendMessage (List.replicate 40 0x2A)]
    let c := begun.foldl Core.step initial
    let inputs : List Input := .tick :: .nextCommand :: List.replicate 19 .tick
    ∃ past, Run initial past c ∧ c.chunkInFlight = true ∧
      (∀ input ∈ inputs, input = .tick ∨ input = .nextCommand) ∧
      Settings.standard.transferTimeout.toNat =
        inputs.countP Input.isTick * Settings.standard.tick.toNat ∧
      (inputs.foldl Core.step c).connection.isConnected = true ∧
      (inputs.foldl Core.step c).Unoccupied := by
  intro initial begun c inputs
  obtain ⟨past, run⟩ := Run.script initial begun
  have flying : c.chunkInFlight = true := by decide +kernel
  have idle : ∀ input ∈ inputs, input = .tick ∨ input = .nextCommand := by
    simp [inputs]
  exact ⟨past, run, flying, idle, by decide, by decide +kernel,
    run.chunk_expires.2.2 flying inputs idle (by decide) (by decide)⟩

end Controller

end CardLink
