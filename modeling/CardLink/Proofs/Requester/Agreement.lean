import CardLink.Proofs.Requester.Waiting

namespace CardLink

def Request.frame (request : Request) : List UInt8 :=
  Frame.packetType :: Word.little request.opcode ++
    UInt8.ofNat request.params.length :: request.params

namespace Requester

variable {σ : Type}

theorem Waiting.step {r : Requester} {request : Request} {size period ticks : Nat}
    (waiting : r.Waiting size period request.limit (ticks * period)) (positive : 0 < size)
    (listener : Listener σ) (event : PlatformEvent) (s : σ) :
    ∃ after : Requester,
      after.Settled size period ((ticks + [event].count .tick) * period) ∧
      match request.decision period ticks event with
      | some answer => ∀ later, wait listener request (event :: later) r s =
          ⟨answer, later, after, request.observe listener s event⟩
      | none =>
        after.Waiting size period request.limit ((ticks + [event].count .tick) * period) ∧
        ∀ later, wait listener request (event :: later) r s =
          wait listener request later after (request.observe listener s event) := by
  cases event with
  | hci raw =>
    obtain ⟨after, still, waited⟩ := waiting.packet positive listener request raw s
    refine ⟨after, still.toSettled, ?_⟩
    simp only [Request.decision, Request.observe]
    cases read : request.read raw with
    | decided answer =>
      rw [read] at waited
      exact waited
    | malformed | unsolicited | undecided =>
      rw [read] at waited
      exact ⟨still, waited⟩
  | usb | other =>
    exact ⟨r, waiting.toSettled, waiting, fun later => by simp only [wait, Request.observe]⟩
  | tick =>
    have elapsed : (r.clock.tick r.tick).elapsed = (ticks + 1) * period := by
      simp only [Countdown.tick, waiting.armed, if_true, waiting.time, waiting.tick]
      rw [Nat.add_mul, Nat.one_mul]
    have phase : (r.clock.tick r.tick).phase =
        if request.limit ≤ (ticks + 1) * period then .expired else .armed := by
      simp only [Countdown.tick, waiting.armed, if_true, waiting.time, waiting.tick,
        waiting.limit, Nat.add_mul, Nat.one_mul]
    have limit : (r.clock.tick r.tick).limit = request.limit := by
      simp only [Countdown.tick, waiting.armed, if_true, waiting.limit]
    have settled : Settled { r with clock := r.clock.tick r.tick } size period
        ((ticks + 1) * period) := ⟨waiting.rest, waiting.capacity, waiting.tick, elapsed⟩
    refine ⟨_, settled, ?_⟩
    simp only [Request.decision, Request.observe, wait, phase]
    by_cases late : request.limit ≤ (ticks + 1) * period
    · simp only [if_pos late, if_true, implies_true]
    · simp only [if_neg late]
      rw [if_neg late] at phase
      exact ⟨{ settled with limit := limit, armed := phase }, fun later => rfl⟩

/-- The wait ends with the first event that decides, in whatever order they come. -/
theorem Waiting.decided {r : Requester} {request : Request} {size period ticks : Nat}
    (waiting : r.Waiting size period request.limit (ticks * period)) (positive : 0 < size)
    (listener : Listener σ) (events : List PlatformEvent) (s : σ) :
    ∃ answer taken rest after, request.Decided period ticks events answer taken rest ∧
      after.Settled size period ((ticks + taken.count .tick) * period) ∧
      wait listener request events r s =
        ⟨answer, rest, after, taken.foldl (request.observe listener) s⟩ := by
  induction events generalizing r s ticks with
  | nil => exact ⟨_, [], [], r, .drained Request.undecided_nil, waiting.toSettled, rfl⟩
  | cons event later ih =>
    obtain ⟨after, settled, step⟩ := waiting.step positive listener event s
    cases decision : request.decision period ticks event with
    | some answer =>
      rw [decision] at step
      refine ⟨answer, [event], later, after, ?_, settled, step later⟩
      exact .first Request.undecided_nil decision
    | none =>
      rw [decision] at step
      obtain ⟨answer, taken, rest, last, decided, settled, waited⟩ :=
        ih step.1 (request.observe listener s event)
      refine ⟨answer, event :: taken, rest, last, decided.pass decision, ?_, ?_⟩
      · rw [Request.ticks_cons, ← Nat.add_assoc]
        exact settled
      · rw [step.2 later, waited]
        rfl

/-- Between two uses: every slot is free, and no command is outstanding. -/
structure Resting (r : Requester) (size period : Nat) : Prop where
  rest : r.pool.AtRest
  capacity : r.pool.capacity = size
  tick : r.tick = period
  idle : r.busy = false

/-- The requesters that there can be between two uses: a new one with a pool of this size, and
what a request or a delivery leaves behind. -/
inductive Reach (size period : Nat) : Requester → Prop
  | start : Reach size period { pool := .ofSize size, tick := period }
  | asked {r : Requester} {τ : Type} (reach : Reach size period r) (listener : Listener τ)
      (request : Request) (p : Platform) (s : τ) :
      Reach size period (r.ask listener request p s).2.1
  | delivered {r : Requester} {τ : Type} (reach : Reach size period r) (listener : Listener τ)
      (raw : List UInt8) (s : τ) : Reach size period (r.deliver listener raw s).2.1

theorem Resting.issue {r sent : Requester} {size period : Nat} (resting : r.Resting size period)
    {request : Request} {p written : Platform}
    (issued : r.issue request p = (.ok sent, written)) :
    sent.Waiting size period request.limit (0 * period) := by
  rw [Nat.zero_mul]
  simp only [Requester.issue, resting.idle, Bool.false_eq_true, if_false] at issued
  split at issued
  · cases issued
  · split at issued
    · cases issued
    · cases issued
      exact { resting with time := rfl, limit := rfl, armed := rfl }

theorem Resting.ask {r : Requester} {size period : Nat} (resting : r.Resting size period)
    (positive : 0 < size) (listener : Listener σ) (request : Request) (p : Platform) (s : σ) :
    (r.ask listener request p s).2.1.Resting size period := by
  unfold Requester.ask
  split
  · exact resting
  · rename_i sent written issued
    have waiting := resting.issue issued
    obtain ⟨_, _, _, after, _, settled, waited⟩ :=
      waiting.decided positive listener written.queue s
    rw [waited]
    exact { settled with idle := rfl }

theorem Resting.deliver {r : Requester} {size period : Nat} (resting : r.Resting size period)
    (positive : 0 < size) (listener : Listener σ) (raw : List UInt8) (s : σ) :
    (r.deliver listener raw s).2.1.Resting size period := by
  have some : 0 < r.pool.capacity := resting.capacity ▸ positive
  unfold Requester.deliver
  cases parsed : EventPacket.parse raw with
  | error error =>
    obtain ⟨pool, intake, rest, capacity⟩ := resting.rest.intake_refused some parsed
    rw [intake]
    exact { resting with rest := rest, capacity := capacity.trans resting.capacity }
  | ok packet =>
    obtain ⟨slot, pool, intake, lent, stored, capacity⟩ :=
      resting.rest.intake_taken some parsed
    obtain ⟨rest, same⟩ := lent.release
    simp only [intake, lent.enqueue_pending, drain_lent lent]
    exact { resting with
      rest := rest
      capacity := same.trans (capacity.trans resting.capacity) }

/-- Between two uses a requester hands a packet on at once, unless its form is wrong. -/
theorem Resting.deliver_state {r : Requester} {size period : Nat}
    (resting : r.Resting size period) (positive : 0 < size) (listener : Listener σ)
    (raw : List UInt8) (s : σ) : (r.deliver listener raw s).2.2 =
      match EventPacket.parse raw with
      | .error _ => s
      | .ok packet => listener.packet packet s := by
  have some : 0 < r.pool.capacity := resting.capacity ▸ positive
  unfold Requester.deliver
  cases parsed : EventPacket.parse raw with
  | error error =>
    obtain ⟨pool, intake, -, -⟩ := resting.rest.intake_refused some parsed
    rw [intake]
  | ok packet =>
    obtain ⟨slot, pool, intake, lent, stored, -⟩ := resting.rest.intake_taken some parsed
    simp only [intake, lent.enqueue_pending, drain_lent lent, stored]

theorem Reach.resting {r : Requester} {size period : Nat} (reach : Reach size period r)
    (positive : 0 < size) : r.Resting size period := by
  induction reach with
  | start => exact ⟨SlotPool.atRest_ofSize size, List.length_replicate, rfl, rfl⟩
  | asked _ listener request p s ih => exact ih.ask positive listener request p s
  | delivered _ listener raw s ih => exact ih.deliver positive listener raw s

/-- The first event that decides a request answers it, and without one it times out. The listener
gets everything else up to there, and what comes later is left to others. Only a clock that
runs over refuses. -/
theorem Reach.ask_decided {r : Requester} {size period : Nat} (reach : Reach size period r)
    (positive : 0 < size) (listener : Listener σ) {request : Request}
    (short : request.params.length ≤ 255) {p written : Platform}
    (sent : p.send request.frame = (.ok (), written)) (s : σ) :
    ∃ answer taken rest after, request.Decided period 0 written.queue answer taken rest ∧
      after.Resting size period ∧
      r.ask? listener request p s =
        if timeBound ≤ taken.count .tick * period then .error .timeOverflow
        else .ok (answer, after, { written with queue := rest },
          taken.foldl (request.observe listener) s) := by
  have resting := reach.resting positive
  have built : Frame.build request.opcode request.params = .ok request.frame :=
    if_neg (Nat.not_lt.mpr short)
  have issued : r.issue request p =
      (.ok { r with busy := true, clock := r.clock.arm request.limit }, written) := by
    simp only [Requester.issue, resting.idle, Bool.false_eq_true, if_false, built, sent]
  have waiting := resting.issue issued
  obtain ⟨answer, taken, rest, after, decided, settled, waited⟩ :=
    waiting.decided positive listener written.queue s
  refine ⟨answer, taken, rest, { after with busy := false, clock := {} }, decided,
    { settled with idle := rfl }, ?_⟩
  simp only [ask?, Requester.ask, issued, waited, settled.time, Nat.zero_add, decide_eq_true_eq]
  rfl

/-- A reset with one slot: a tick and a disconnection come before its completion. -/
theorem Reach.ask_decided_reset :
    let request : Request := { opcode := 0x0C03, room := 4, limit := 300000 }
    let p : Platform := { queue := [.tick, .hci [0x04, 0x05, 0x04, 0x00, 0x01, 0x00, 0x13]] }
    let listener : Listener (List EventPacket) := { packet := fun packet seen => packet :: seen }
    let r : Requester := { pool := .ofSize 1, tick := 100000 }
    request.params.length ≤ 255 ∧
    p.send request.frame = (.ok (), p.accept request.frame) ∧
    ∃ answer taken rest after,
      request.Decided 100000 0 (p.accept request.frame).queue answer taken rest ∧
      after.Resting 1 100000 ∧
      r.ask? listener request p [] =
        if timeBound ≤ taken.count .tick * 100000 then .error .timeOverflow
        else .ok (answer, after, { p.accept request.frame with queue := rest },
          taken.foldl (request.observe listener) []) := by
  intro request p listener r
  have short : request.params.length ≤ 255 := by decide
  have sent : p.send request.frame = (.ok (), p.accept request.frame) := rfl
  exact ⟨short, sent, Reach.start.ask_decided (by decide) listener short sent []⟩

/-- The second tick reaches the limit, but the time that it reaches does not fit the clock. -/
theorem ask_runs_over :
    let request : Request := { opcode := 0xFD01, room := 1, limit := 18446744073709551615 }
    let p : Platform := { queue := [.tick, .tick, .tick], completes := false }
    let listener : Listener Unit := { packet := fun _ s => s }
    let r : Requester := { tick := 18446744073709551000 }
    p.send request.frame = (.ok (), p.accept request.frame) ∧
    request.Decided r.tick 0 (p.accept request.frame).queue (.error .timeout) [.tick, .tick]
      [.tick] ∧
    r.ask? listener request p () = .error .timeOverflow := by
  intro request p listener r
  have undecided : request.Undecided r.tick 0 [.tick] := Request.undecided_nil.cons rfl
  have issued : r.issue request p =
      (.ok { r with busy := true, clock := r.clock.arm request.limit }, p.accept request.frame) :=
    rfl
  have late : timeBound ≤ (wait listener request (p.accept request.frame).queue
      { r with busy := true, clock := r.clock.arm request.limit } ()).requester.clock.elapsed := by
    decide
  refine ⟨rfl, .first undecided rfl, ?_⟩
  simp only [ask?, issued, late, decide_true, if_true]

end Requester

end CardLink
