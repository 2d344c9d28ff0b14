import CardLink.Proofs.Legacy.Hearing

namespace CardLink.Legacy

/-- How long the reply must be for all the handles that it carries, with the status before them. -/
def SetupStep.replyLength : SetupStep → Nat
  | gapInit => 7
  | addService | addTxChar | addRxChar => 3
  | writeAddress | gattInit | authRequirement | txPower | scanResponse | deviceName | appearance
  | discoverable => 0

namespace Happening

def event? : Happening → Option PlatformEvent
  | took event _ => some event
  | switchedRadio _ | setUp => none

def switch? : Happening → Option Bool
  | switchedRadio on => some on
  | took _ _ | setUp => none

end Happening

/-- The radio is switched off, on again, and then the setup is run. -/
def PowerCycled (course : List Happening) : Prop :=
  [.switchedRadio false, .switchedRadio true, .setUp].Sublist course

namespace Link

def request (l : Link) (command : Command) (params : List UInt8) (room : Nat) : Request where
  opcode := command.opcode
  params := params
  room := room
  limit := Settings.microseconds l.settings.hciTimeout

def askCourse (l : Link) (command : Command) (params : List UInt8) (room : Nat) : List Happening :=
  l.core.hearings
    (l.requester.taken Core.listener (l.request command params room) l.platform l.core)

def writeCourse (l : Link) (params : List UInt8) : List Happening :=
  askCourse { l with core := { l.core with txPoolAvailable := false } } .updateCharValue params 1

def poolCourse (l : Link) : List Happening :=
  match l.settings.legacyRetry with
  | .unbounded =>
    let rest := (awaitPool l.platform.queue l.requester l.core).2.1
    l.core.hearings (l.platform.queue.take (l.platform.queue.length - rest.length))
  | .bounded _ _ => []

def updateCourse (params : List UInt8) : Nat → Nat → Link → List Happening
  | 0, _, _ => []
  | rounds + 1, attempt, l =>
    let (answer, after) := l.write params
    l.writeCourse params ++
      match answer with
      | .ok (status :: _) =>
        if status = 0 then []
        else if status = statusInsufficientResources then
          let attempt := min 65535 (attempt + 1)
          if after.settings.legacyRetry.allows attempt then
            after.poolCourse ++
              match after.waitTxPool with
              | (.error _, _) => []
              | (.ok (), l) => updateCourse params rounds attempt l
          else []
        else []
      | _ => []

def valueCourse (l : Link) (params : List UInt8) : List Happening :=
  updateCourse params (l.platform.scripted.length + 1) 0 l

def notifyCourse (l : Link) (chunk : List UInt8) : List Happening :=
  l.valueCourse (valueParams l.core.handles.service l.core.handles.tx chunk)

def setupStepCourse (l : Link) (handles : Handles) (step : SetupStep) : List Happening :=
  if step.updates then l.valueCourse (l.setupParams handles step)
  else l.askCourse step.command (l.setupParams handles step) (max 1 step.replyLength)

def setupRunCourse : List SetupStep → Handles → Link → List Happening
  | [], _, _ => []
  | step :: rest, handles, l =>
    l.setupStepCourse handles step ++
      match l.setupStep handles step with
      | (.error _, _) => []
      | (.ok handles, l) => setupRunCourse rest handles l

def setupCourse (l : Link) : List Happening :=
  setupRunCourse setupSteps {} { l with core := l.core.resetLink } ++ [.setUp]

def powerCourse (l : Link) (on : Bool) : List Happening :=
  let l := { l with platform := l.platform.switchRadio on, core := l.core.resetLink }
  .switchedRadio on :: if on then l.setupCourse else []

def performCourse (l : Link) : Action → List Happening
  | .notify chunk => l.notifyCourse chunk
  | .writeResponse connection attr data =>
    l.askCourse .writeResponse (Word.little connection ++ Word.little attr ++
      [0x00, 0x00, UInt8.ofNat data.length] ++ data) 1
  | .powerCycle => l.powerCourse false ++ (l.power false).2.powerCourse true

def runCourse : Nat → Link → List Happening
  | 0, _ => []
  | rounds + 1, l =>
    match l.core.nextAction with
    | (none, _) => []
    | (some action, core) =>
      let l := { l with core := core }
      l.performCourse action ++ runCourse rounds (l.perform action)

def actionCourse (l : Link) : List Happening :=
  if l.core.actions.isEmpty then [] else runCourse l.actionBound l

def processCourse (l : Link) : List Happening :=
  match l.platform.queue with
  | [] => []
  | event :: rest =>
    let (requester, core) := takeEvent event l.requester l.core
    .took event (l.core.loses event) :: actionCourse { l with
      platform := { l.platform with queue := rest }
      requester := requester
      core := core }

def deferredCourse (l : Link) : List Happening :=
  match l.core.endpoint.takeDeferred with
  | (some reply, endpoint) => (l.withEndpoint endpoint).notifyCourse reply
  | (none, _) => []

/-- A held reply goes out, and then what has been queued. -/
def replyCourse (l : Link) : List Happening := l.deferredCourse ++ l.flushDeferred.actionCourse

def chunkCourse (data : List UInt8) : Nat → Link → List Happening
  | 0, _ => []
  | steps + 1, l =>
    match l.core.endpoint.nextChunk data with
    | (none, _) => []
    | (some chunk, endpoint) =>
      match endpoint.enterTransmit with
      | (.error _, _) => []
      | (.ok (), endpoint) =>
        (l.withEndpoint endpoint).notifyCourse chunk ++
          ((l.transmitted endpoint chunk).replyCourse ++
            match ((l.withEndpoint endpoint).notify chunk).1 with
            | .error _ => []
            | .ok () => chunkCourse data steps
              (l.transmitted endpoint chunk).flushDeferred.runActions)

def sendCourse (l : Link) (data : List UInt8) : List Happening :=
  match l.core.endpoint.beginSend data.length with
  | (.error _, _) => []
  | (.ok (), endpoint) =>
    let sent := (sendChunks data (data.length + 1) (l.withEndpoint endpoint)).2
    chunkCourse data (data.length + 1) (l.withEndpoint endpoint) ++
      (sent.withEndpoint sent.core.endpoint.finishSend).replyCourse

/-- The course shows every event that has left the queue, which of them told that the client was
gone, and every switching of the radio. -/
structure Traces (l : Link) (course : List Happening) (after : Link) : Prop where
  taken : ∃ arrived, l.platform.queue ++ arrived =
    course.filterMap Happening.event? ++ after.platform.queue
  severed : ∀ event severs, .took event severs ∈ course → event.disconnects = true → severs = true
  radio : after.platform.radio = l.platform.radio ++ course.filterMap Happening.switch?

/-- A loss of the client in the course, or a power cycle that was queued before it, leads to a power
cycle in it, or else leaves one queued. -/
structure Undergoes (l : Link) (course : List Happening) (after : Link) : Prop extends
    l.Traces course after where
  answered : ∀ earlier event later, course = earlier ++ .took event true :: later →
    PowerCycled later ∨ .powerCycle ∈ after.core.actions
  kept : .powerCycle ∈ l.core.actions → PowerCycled course ∨ .powerCycle ∈ after.core.actions
  bound : after.actionBound ≤ l.actionBound

theorem Undergoes.trans {a b c : Link} {past later : List Happening}
    (first : a.Undergoes past b) (second : b.Undergoes later c) :
    a.Undergoes (past ++ later) c where
  taken := by
    obtain ⟨soon, taken⟩ := first.taken
    obtain ⟨late, taken'⟩ := second.taken
    refine ⟨soon ++ late, ?_⟩
    rw [← List.append_assoc, taken, List.append_assoc, taken', List.filterMap_append,
      List.append_assoc]
  severed event severs member := by
    rcases List.mem_append.mp member with soon | late
    · exact first.severed event severs soon
    · exact second.severed event severs late
  radio := by rw [second.radio, first.radio, List.filterMap_append, List.append_assoc]
  answered earlier event rest split := by
    rcases List.append_eq_append_iff.mp split with ⟨between, -, behind⟩ | ⟨between, whole, behind⟩
    · exact second.answered between event rest behind
    · cases between with
      | nil => exact second.answered [] event rest behind.symm
      | cons head between =>
        obtain ⟨rfl, rfl⟩ := List.cons.inj behind
        rcases first.answered earlier event between whole with cycled | queued
        · exact .inl (cycled.trans (List.sublist_append_left _ _))
        · exact (second.kept queued).imp_left fun cycled =>
            cycled.trans (List.sublist_append_right _ _)
  kept queued := by
    rcases first.kept queued with cycled | queued
    · exact .inl (cycled.trans (List.sublist_append_left _ _))
    · exact (second.kept queued).imp_left fun cycled =>
        cycled.trans (List.sublist_append_right _ _)
  bound := Nat.le_trans second.bound first.bound

/-- No event is taken, and the actions stay as they are. -/
theorem Undergoes.untaken {l after : Link} {course : List Happening}
    (none : course.filterMap Happening.event? = [])
    (scripted : after.platform.scripted = l.platform.scripted)
    (queue : after.platform.queue = l.platform.queue)
    (radio : after.platform.radio = l.platform.radio ++ course.filterMap Happening.switch?)
    (actions : after.core.actions = l.core.actions) : l.Undergoes course after where
  taken := ⟨[], by rw [queue, none, List.append_nil, List.nil_append]⟩
  severed event severs member :=
    absurd rfl (List.filterMap_eq_nil_iff.mp none _ member ▸ Option.some_ne_none event)
  radio := radio
  answered earlier event later split := by
    rw [split, List.filterMap_append] at none
    cases (List.append_eq_nil_iff.mp none).2
  kept queued := .inr (actions ▸ queued)
  bound := by
    have same : after.actionBound = l.actionBound := by
      rw [actionBound, actionBound, scripted, actions]
    exact Nat.le_of_eq same

theorem Undergoes.silent {l after : Link} (scripted : after.platform.scripted = l.platform.scripted)
    (queue : after.platform.queue = l.platform.queue)
    (radio : after.platform.radio = l.platform.radio)
    (actions : after.core.actions = l.core.actions) : l.Undergoes [] after :=
  .untaken rfl scripted queue (radio.trans (List.append_nil _).symm) actions

theorem Undergoes.next {a b c : Link} {course : List Happening} (first : a.Undergoes [] b)
    (second : b.Undergoes course c) : a.Undergoes course c := first.trans second

theorem Undergoes.last {a b c : Link} {course : List Happening} (first : a.Undergoes course b)
    (second : b.Undergoes [] c) : a.Undergoes course c :=
  List.append_nil course ▸ first.trans second

theorem Undergoes.refl (l : Link) : l.Undergoes [] l := .silent rfl rfl rfl rfl

theorem event?_hearings (c : Core) (events : List PlatformEvent) :
    (c.hearings events).filterMap Happening.event? = events := by
  induction events generalizing c with
  | nil => rfl
  | cons event rest ih => exact congrArg (event :: ·) (ih _)

theorem switch?_hearings (c : Core) (events : List PlatformEvent) :
    (c.hearings events).filterMap Happening.switch? = [] := by
  induction events generalizing c with
  | nil => rfl
  | cons event rest ih => exact ih _

theorem Undergoes.hearings {l after : Link} {events : List PlatformEvent}
    (taken : ∃ arrived, l.platform.queue ++ arrived = events ++ after.platform.queue)
    (radio : after.platform.radio = l.platform.radio)
    (heard : after.core.actions = (events.foldl Core.heard l.core).actions)
    (spent : events.countP stirs + after.platform.remaining stirs = l.platform.remaining stirs) :
    l.Undergoes (l.core.hearings events) after := by
  obtain ⟨lost, kept, few⟩ := l.core.hearings_queued events
  rw [← heard] at lost kept few
  have traces : l.Traces (l.core.hearings events) after := by
    refine ⟨?_, fun _ _ => Core.severs_of_disconnects, ?_⟩
    · rw [event?_hearings]
      exact taken
    · rw [switch?_hearings, List.append_nil, radio]
  refine ⟨traces, fun earlier event later split => .inr (lost earlier event later split),
    fun queued => .inr (kept queued), ?_⟩
  unfold Platform.remaining at spent
  unfold actionBound
  omega

variable {l : Link}

theorem not_stirs_completion (opcode : UInt16) (handles : List UInt8) :
    stirs (.hci (Platform.completion opcode handles)) = false := rfl

theorem ask_undergoes (rests : l.Rests) (command : Command) (params : List UInt8) (room : Nat) :
    l.Undergoes (l.askCourse command params room) (l.ask command params room).2 := by
  obtain ⟨period, reach⟩ := rests
  obtain ⟨taken, heard, spent⟩ := reach.ask_taken (by decide) Core.listener
    (l.request command params room) l.platform l.core not_stirs_completion
  refine .hearings taken ?_ ?_ spent
  · exact Platform.radio_of_log (l.requester.ask_log Core.listener _ l.platform l.core)
      (Request.acts_still _ _)
  · have observed : (l.request command params room).observe Core.listener = Core.heard :=
      funext fun c => funext fun event => Core.observe_eq_heard rfl c event
    rw [observed] at heard
    exact congrArg Core.actions heard

theorem write_undergoes (rests : l.Rests) (params : List UInt8) :
    l.Undergoes (l.writeCourse params) (l.write params).2 := by
  let cleared := { l with core := { l.core with txPoolAvailable := false } }
  have first : l.Undergoes [] cleared := .silent rfl rfl rfl rfl
  exact first.next (ask_undergoes (l := cleared) rests _ _ _)

theorem waitTxPool_undergoes (rests : l.Rests) : l.Undergoes l.poolCourse l.waitTxPool.2 := by
  cases policy : l.settings.legacyRetry with
  | unbounded =>
    obtain ⟨period, reach⟩ := rests
    obtain ⟨taken, split, heard⟩ :=
      Core.awaitPool_heard reach (by decide) l.platform.queue l.core
    simp only [poolCourse, waitTxPool, policy]
    generalize awaitPool l.platform.queue l.requester l.core = waited at *
    obtain ⟨result, rest, requester, core⟩ := waited
    have split : l.platform.queue = taken ++ rest := split
    rw [take_of_append split]
    refine .hearings ⟨[], (List.append_nil _).trans split⟩ rfl (congrArg Core.actions heard) ?_
    simp only [Platform.remaining, Platform.scripted, split, List.countP_append]
    omega
  | bounded attempts backoff =>
    simp only [poolCourse, waitTxPool, policy]
    have logged : (l.platform.pause backoff.toNat).log =
        [.paused backoff.toNat] ++ l.platform.log := rfl
    exact .silent rfl rfl (Platform.radio_of_log logged (by simp)) rfl

theorem updateWithin_undergoes (params : List UInt8) (rounds attempt : Nat) (rests : l.Rests) :
    l.Undergoes (updateCourse params rounds attempt l)
      (updateWithin params rounds attempt l).2 := by
  induction rounds generalizing attempt l with
  | zero => exact .refl l
  | succ rounds ih =>
    have written := write_undergoes rests params
    have still := rests_lasting.write rests params
    have ended := written.trans (.refl _)
    simp only [updateCourse, updateWithin]
    rw [show ask _ _ params 1 = l.write params from rfl]
    generalize l.write params = out at *
    obtain ⟨answer, after⟩ := out
    obtain _ | _ | ⟨status, _⟩ := answer
    · exact ended
    · exact ended
    · by_cases taken : status = 0
      · simp only [if_pos taken]
        exact ended
      · by_cases full : status = statusInsufficientResources
        · by_cases retry : after.settings.legacyRetry.allows (min 65535 (attempt + 1)) = true
          · simp only [if_neg taken, if_pos full, if_pos retry]
            have waited := waitTxPool_undergoes still
            have ready := rests_lasting.waitTxPool still
            generalize after.waitTxPool = paused at *
            obtain ⟨result, paused⟩ := paused
            cases result with
            | error error =>
              exact written.trans (waited.trans (.refl _))
            | ok => exact written.trans (waited.trans (ih _ ready))
          · simp only [if_neg taken, if_pos full, if_neg retry]
            exact ended
        · simp only [if_neg taken, if_neg full]
          exact ended

theorem update_undergoes (rests : l.Rests) (params : List UInt8) :
    l.Undergoes (l.valueCourse params) (l.update params).2 :=
  updateWithin_undergoes params _ 0 rests

theorem notify_undergoes (rests : l.Rests) (chunk : List UInt8) :
    l.Undergoes (l.notifyCourse chunk) (l.notify chunk).2 :=
  update_undergoes rests _

theorem command_undergoes (rests : l.Rests) (command : Command) (params : List UInt8) :
    l.Undergoes (l.askCourse command params 1) (l.command command params).2 := by
  have asked := ask_undergoes rests command params 1
  unfold Link.command
  split <;> rename_i shape <;> rw [shape] at asked <;> exact asked

theorem askHandles_undergoes (rests : l.Rests) (command : Command) (params : List UInt8)
    (count : Nat) : l.Undergoes (l.askCourse command params (1 + 2 * count))
      (l.askHandles command params count).2 := by
  have asked := ask_undergoes rests command params (1 + 2 * count)
  unfold askHandles
  split <;> rename_i shape <;> rw [shape] at asked
  · exact asked
  · split
    · exact asked
    · split <;> exact asked

theorem plainStep_undergoes (rests : l.Rests) (command : Command) (params : List UInt8)
    (handles : Handles) : l.Undergoes (l.askCourse command params 1)
      (l.plainStep command params handles).2 := by
  have asked := command_undergoes rests command params
  unfold plainStep
  split <;> rename_i shape <;> rw [shape] at asked <;> exact asked

theorem setupStep_undergoes (rests : l.Rests) (handles : Handles) (step : SetupStep) :
    l.Undergoes (l.setupStepCourse handles step) (l.setupStep handles step).2 := by
  have given {command : Command} {params : List UInt8} {count : Nat}
      {out : Except CommandError (List UInt8) × Link}
      (asked : l.askHandles command params count = out) :
      l.Undergoes (l.askCourse command params (1 + 2 * count)) out.2 :=
    asked ▸ askHandles_undergoes rests command params count
  cases step with
  | writeAddress | gattInit | authRequirement | txPower | scanResponse | discoverable =>
    exact plainStep_undergoes rests _ _ handles
  | gapInit | addService | addTxChar | addRxChar =>
    simp only [setupStep]
    split <;> rename_i shape
    · exact given shape
    · exact (given shape).last (.silent rfl rfl rfl rfl)
  | deviceName | appearance => exact update_undergoes rests _

theorem setupRun_undergoes (rests : l.Rests) (steps : List SetupStep) (handles : Handles) :
    l.Undergoes (setupRunCourse steps handles l) (setupRun steps handles l).2 := by
  induction steps generalizing handles l with
  | nil => exact .refl l
  | cons step rest ih =>
    have stepped := setupStep_undergoes rests handles step
    have still := rests_lasting.setupStep rests handles step
    simp only [setupRunCourse, setupRun]
    generalize l.setupStep handles step = out at *
    obtain ⟨_ | handles, after⟩ := out
    · exact stepped.trans (.refl _)
    · exact stepped.trans (ih still handles)

end Link

end CardLink.Legacy
