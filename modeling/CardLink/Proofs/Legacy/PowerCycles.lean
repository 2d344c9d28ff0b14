import CardLink.Proofs.Legacy.Courses

namespace CardLink.Legacy

namespace Link

variable {l : Link} {course : List Happening}

/-- Actions leave the queue, and a power cycle among them is in the course. -/
theorem Undergoes.disposed {actions : List Action} {after : Link}
    (undergoes : Undergoes { l with core := { l.core with actions := actions } } course after)
    (fewer : actions.length < l.core.actions.length)
    (cycled : .powerCycle ∈ l.core.actions → .powerCycle ∈ actions ∨ PowerCycled course) :
    l.Undergoes course after ∧ after.actionBound < l.actionBound := by
  have less : actionBound { l with core := { l.core with actions := actions } } < l.actionBound :=
    Nat.add_lt_add_left fewer _
  have bound := Nat.lt_of_le_of_lt undergoes.bound less
  exact ⟨⟨⟨undergoes.taken, undergoes.severed, undergoes.radio⟩, undergoes.answered,
    fun queued => (cycled queued).elim undergoes.kept .inl, Nat.le_of_lt bound⟩, bound⟩

/-- Without an action that it would drop, the switching of the radio is like any other course. -/
theorem power_undergoes (rests : l.Rests) (none : l.core.actions = []) (on : Bool) :
    l.Undergoes (l.powerCourse on) (l.power on).2 := by
  have switched : l.Undergoes [.switchedRadio on]
      { l with platform := l.platform.switchRadio on, core := l.core.resetLink } := by
    refine .untaken rfl rfl rfl ?_ none.symm
    simp only [Platform.radio, Platform.switchRadio, List.reverse_cons, List.filterMap_append]
    rfl
  cases on with
  | false => exact switched
  | true =>
    have reset : Undergoes
        { l with platform := l.platform.switchRadio true, core := l.core.resetLink } []
        { l with platform := l.platform.switchRadio true, core := l.core.resetLink.resetLink } :=
      .silent rfl rfl rfl rfl
    have run := setupRun_undergoes (l := { l with
      platform := l.platform.switchRadio true, core := l.core.resetLink.resetLink }) rests
      setupSteps {}
    have ended (l : Link) : l.Undergoes [.setUp] l :=
      .untaken rfl rfl rfl (List.append_nil _).symm rfl
    exact switched.trans (reset.next (run.trans (ended _)))

/-- An action that is performed leaves the queue, and the setup of a power cycle hears of every loss
of the client again. -/
theorem perform_undergoes (rests : l.Rests) {action : Action} {actions : List Action}
    (queued : l.core.actions = action :: actions) :
    let next := { l with core := { l.core with actions := actions } }
    l.Undergoes (next.performCourse action) (next.perform action) ∧
      (next.perform action).actionBound < l.actionBound := by
  intro next
  have fewer : actions.length < l.core.actions.length := by
    rw [queued]
    exact Nat.lt_succ_self _
  have passed (other : action ≠ .powerCycle) (course : List Happening) :
      .powerCycle ∈ l.core.actions → .powerCycle ∈ actions ∨ PowerCycled course := by
    rw [queued]
    exact fun member => .inl ((List.mem_cons.mp member).resolve_left other.symm)
  cases action with
  | notify chunk =>
    exact (notify_undergoes (l := next) rests chunk).disposed fewer (passed nofun _)
  | writeResponse =>
    exact (command_undergoes (l := next) rests _ _).disposed fewer (passed nofun _)
  | powerCycle =>
    -- The reset before the setup drops what else was queued.
    let bare := { l with core := { l.core with actions := [] } }
    have off := power_undergoes (l := bare) rests rfl false
    have on := power_undergoes (l := (bare.power false).2) rests rfl true
    have cycled : PowerCycled (next.performCourse .powerCycle) :=
      .cons_cons _ (.cons_cons _ (List.sublist_append_right _ _))
    exact (off.trans on).disposed (l := l) (queued ▸ Nat.zero_lt_succ _) fun _ => .inr cycled

/-- As many rounds as there can be actions perform all of them. -/
theorem runWithin_undergoes (rests : l.Rests) (rounds : Nat) (enough : l.actionBound ≤ rounds) :
    l.Undergoes (runCourse rounds l) (runWithin rounds l) ∧
      (runWithin rounds l).core.actions = [] := by
  induction rounds generalizing l with
  | zero =>
    have none : l.core.actions.length = 0 := by
      unfold actionBound at enough
      omega
    exact ⟨.refl l, List.eq_nil_of_length_eq_zero none⟩
  | succ rounds ih =>
    simp only [runCourse, runWithin, Core.nextAction]
    cases queued : l.core.actions with
    | nil => exact ⟨.refl l, queued⟩
    | cons action actions =>
      obtain ⟨performed, less⟩ := perform_undergoes rests queued
      have still := rests_lasting.perform
        (l := { l with core := { l.core with actions := actions } }) rests action
      obtain ⟨rest, empty⟩ := ih still (Nat.le_of_lt_succ (Nat.lt_of_lt_of_le less enough))
      exact ⟨performed.trans rest, empty⟩

theorem runActions_undergoes (rests : l.Rests) :
    l.Undergoes l.actionCourse l.runActions ∧ l.runActions.core.actions = [] := by
  unfold actionCourse runActions
  split
  · rename_i none
    exact ⟨.refl l, List.isEmpty_iff.mp none⟩
  · exact runWithin_undergoes rests _ (Nat.le_refl _)

theorem withEndpoint_undergoes (l : Link) (endpoint : Endpoint .legacy) :
    l.Undergoes [] (l.withEndpoint endpoint) := .silent rfl rfl rfl rfl

theorem flushDeferred_undergoes (rests : l.Rests) :
    l.Undergoes l.deferredCourse l.flushDeferred := by
  unfold deferredCourse flushDeferred
  generalize l.core.endpoint.takeDeferred = taken
  obtain ⟨_ | reply, endpoint⟩ := taken
  · exact l.withEndpoint_undergoes endpoint
  · exact (l.withEndpoint_undergoes endpoint).next
      (notify_undergoes (l := l.withEndpoint endpoint) rests reply)

theorem replies_undergoes (rests : l.Rests) :
    l.Undergoes l.replyCourse l.flushDeferred.runActions ∧
      l.flushDeferred.runActions.core.actions = [] := by
  obtain ⟨run, empty⟩ := runActions_undergoes (rests_lasting.flushDeferred rests)
  exact ⟨(flushDeferred_undergoes rests).trans run, empty⟩

theorem sendChunks_undergoes (data : List UInt8) (steps : Nat) (rests : l.Rests) :
    l.Undergoes (chunkCourse data steps l) (sendChunks data steps l).2 := by
  induction steps generalizing l with
  | zero => exact .refl l
  | succ steps ih =>
    simp only [chunkCourse, sendChunks]
    generalize l.core.endpoint.nextChunk data = next
    obtain ⟨_ | chunk, cut⟩ := next
    · exact l.withEndpoint_undergoes cut
    dsimp only
    generalize cut.enterTransmit = entry
    obtain ⟨_ | _, entered⟩ := entry
    · exact l.withEndpoint_undergoes entered
    have sent := (l.withEndpoint_undergoes entered).next
      (notify_undergoes (l := l.withEndpoint entered) rests chunk)
    have left : l.Undergoes _ (l.transmitted entered chunk) :=
      sent.last (withEndpoint_undergoes _ _)
    have still : (l.transmitted entered chunk).Rests :=
      rests_lasting.notify (l := l.withEndpoint entered) rests chunk
    have replied := left.trans (replies_undergoes still).1
    have ready := rests_lasting.runActions (rests_lasting.flushDeferred still)
    dsimp only
    rw [← List.append_assoc]
    cases ((l.withEndpoint entered).notify chunk).1 with
    | error => exact replied.trans (.refl _)
    | ok => exact replied.trans (ih ready)

/-- A send that has begun performs everything that it has queued. -/
theorem send_undergoes (rests : l.Rests) (data : List UInt8)
    (accepted : (l.core.endpoint.beginSend data.length).1 = .ok ()) :
    l.Undergoes (l.sendCourse data) (l.send data).2 ∧ (l.send data).2.core.actions = [] := by
  unfold sendCourse send
  generalize l.core.endpoint.beginSend data.length = begun at *
  obtain ⟨result, endpoint⟩ := begun
  cases accepted
  have sent := (l.withEndpoint_undergoes endpoint).next
    (sendChunks_undergoes data (data.length + 1) (l := l.withEndpoint endpoint) rests)
  have still := rests_lasting.transmits
    (sendChunks_transmits data (data.length + 1) (l.withEndpoint endpoint)) rests
  dsimp only
  generalize sendChunks data (data.length + 1) (l.withEndpoint endpoint) = out at *
  obtain ⟨result, after⟩ := out
  have ended := sent.last (after.withEndpoint_undergoes after.core.endpoint.finishSend)
  obtain ⟨replied, empty⟩ :=
    replies_undergoes (l := after.withEndpoint after.core.endpoint.finishSend) still
  exact ⟨ended.trans replied, empty⟩

theorem processEvent_undergoes (rests : l.Rests) {event : PlatformEvent}
    {later : List PlatformEvent} (queued : l.platform.queue = event :: later) :
    l.Undergoes l.processCourse l.processEvent.2 ∧ l.processEvent.2.core.actions = [] := by
  obtain ⟨period, reach⟩ := rests
  have heard := Core.takeEvent_heard reach (by decide) event l.core
  have still := takeEvent_reach event reach l.core
  simp only [processCourse, processEvent, queued]
  generalize takeEvent event l.requester l.core = taken at *
  obtain ⟨requester, core⟩ := taken
  let next : Link := { l with
    platform := { l.platform with queue := later }, requester := requester, core := core }
  have head : l.platform.queue = [event] ++ later := queued
  have spent : [event].countP stirs + next.platform.remaining stirs =
      l.platform.remaining stirs := by
    simp only [Platform.remaining, Platform.scripted, next, head, List.countP_append]
    omega
  have took : l.Undergoes (l.core.hearings [event]) next :=
    .hearings ⟨[], (List.append_nil _).trans head⟩ rfl (congrArg Core.actions heard) spent
  obtain ⟨run, empty⟩ := runActions_undergoes (l := next) ⟨period, still⟩
  exact ⟨took.trans run, empty⟩

/-- No power cycle that a lost client asks for is lost. When an event has been processed, or a
message that was not refused outright has been sent, no action is left, and every loss of the client
that was heard since was followed by a power cycle: the course shows all the events that were taken
and all that was done to the radio. -/
theorem Reachable.power_cycles {settings : Settings} {serial : List UInt8}
    (reachable : Reachable settings serial l) :
    (l.processEvent.1 = true →
      l.Traces l.processCourse l.processEvent.2 ∧ l.processEvent.2.core.actions = [] ∧
      ∀ earlier event later, l.processCourse = earlier ++ .took event true :: later →
        PowerCycled later) ∧
    ∀ data, (l.core.endpoint.beginSend data.length).1 = .ok () →
      l.Traces (l.sendCourse data) (l.send data).2 ∧ (l.send data).2.core.actions = [] ∧
      ∀ earlier event later, l.sendCourse data = earlier ++ .took event true :: later →
        PowerCycled later := by
  have answered {course : List Happening} {after : Link} (undergoes : l.Undergoes course after)
      (empty : after.core.actions = []) : ∀ earlier event later,
      course = earlier ++ .took event true :: later → PowerCycled later := by
    intro earlier event later split
    rcases undergoes.answered earlier event later split with cycled | queued
    · exact cycled
    · rw [empty] at queued
      cases queued
  constructor
  · intro processed
    match queued : l.platform.queue with
    | [] =>
      simp only [processEvent, queued] at processed
      cases processed
    | event :: later =>
      obtain ⟨undergoes, empty⟩ := processEvent_undergoes reachable.rests queued
      exact ⟨undergoes.toTraces, empty, answered undergoes empty⟩
  · intro data accepted
    obtain ⟨undergoes, empty⟩ := send_undergoes reachable.rests data accepted
    exact ⟨undergoes.toTraces, empty, answered undergoes empty⟩

/-- A client is lost, and another one during the setup that follows. -/
theorem Reachable.power_cycles_twice :
    let lost := PlatformEvent.hci [0x04, 0x05, 0x04, 0x00, 0x01, 0x08, 0x13]
    let completed := PlatformEvent.hci (Platform.completion Command.gattInit.opcode [])
    let operations : List Operation := [.power true,
      .script { queue := [lost], rules := [⟨Command.gattInit.opcode, [lost, completed]⟩] }]
    let l := operations.foldl Link.operate (Link.create .standard [1, 2, 3, 4] {})
    let data : List UInt8 := [0x90, 0x00]
    (Reachable .standard [1, 2, 3, 4] l ∧ l.processEvent.1 = true ∧
      (l.core.endpoint.beginSend data.length).1 = .ok ()) ∧
    l.processCourse.count (.took lost true) = 2 ∧
    l.processCourse.filterMap Happening.switch? = [false, true, false, true] ∧
    (l.Traces l.processCourse l.processEvent.2 ∧ l.processEvent.2.core.actions = [] ∧
      ∀ earlier event later, l.processCourse = earlier ++ .took event true :: later →
        PowerCycled later) ∧
    l.Traces (l.sendCourse data) (l.send data).2 ∧ (l.send data).2.core.actions = [] ∧
      ∀ earlier event later, l.sendCourse data = earlier ++ .took event true :: later →
        PowerCycled later := by
  intro lost completed operations l data
  have reachable : Reachable .standard [1, 2, 3, 4] l := (create {}).operations operations
  have processed : l.processEvent.1 = true := by decide +kernel
  have accepted : (l.core.endpoint.beginSend data.length).1 = .ok () := by rfl
  obtain ⟨processing, sending⟩ := reachable.power_cycles
  exact ⟨⟨reachable, processed, accepted⟩, by decide +kernel, by decide +kernel,
    processing processed, sending data accepted⟩

end Link

end CardLink.Legacy
