import CardLink.Proofs.Legacy.Keeping

namespace CardLink

/-- The updates among the frames that the controller has got. -/
def Platform.updates (p : Platform) : List (List UInt8) :=
  p.frames.filter fun frame => Frame.opcode frame == Command.updateCharValue.opcode

namespace Legacy

def updateRequest (params : List UInt8) : Request where
  opcode := Command.updateCharValue.opcode
  params := params
  room := 1
  limit := 0

/-- A request to write a characteristic value, and its answer. -/
structure Update where
  params : List UInt8
  answer : Except CommandError (List UInt8)

namespace Update

/-- What is to be written, after the handles, an offset and a length. -/
def value (u : Update) : List UInt8 := u.params.drop 6

/-- The controller answers with status zero, or with nothing. -/
def accepted (u : Update) : Bool :=
  match u.answer with
  | .ok reply => reply.headD 0 == 0
  | .error _ => false

/-- The controller has no free buffer. -/
def refused (u : Update) : Bool :=
  match u.answer with
  | .ok reply => reply.head? == some statusInsufficientResources
  | .error _ => false

/-- The value is a chunk of a message: it has the tag of one, and all of a chunk's header, for which
an appearance is too short. -/
def isMessage (u : Update) : Bool :=
  Chunk.tag? .legacy u.value == some .apdu && decide (3 ≤ u.value.length)

/-- What the controller has got of it. -/
def written (u : Update) : List (List UInt8) := (updateRequest u.params).written u.answer

theorem written_of_answer {u : Update} (answered : u.accepted = true ∨ u.refused = true) :
    u.written = [(updateRequest u.params).frame] := by
  unfold accepted refused at answered
  unfold written
  cases answer : u.answer with
  | ok reply => rfl
  | error error => simp [answer] at answered

theorem not_accepted_of_refused {u : Update} (refused : u.refused = true) :
    u.accepted = false := by
  unfold Update.refused at refused
  unfold accepted
  split at refused
  · rename_i reply _
    rw [List.headD_eq_head?_getD, beq_iff_eq.mp refused]
    decide
  · cases refused

end Update

/-- The step writes a value. It may have to do so several times, and never fails. -/
def SetupStep.updates : SetupStep → Bool
  | deviceName | appearance => true
  | writeAddress | gattInit | gapInit | authRequirement | addService | addTxChar | addRxChar
  | txPower | scanResponse | discoverable => false

theorem SetupStep.updates_iff {step : SetupStep} :
    step.updates = true ↔ step = .deviceName ∨ step = .appearance := by
  cases step <;> decide

namespace Link

/-- One write of the value, before which the flag of a free buffer is cleared. -/
def write (l : Link) (params : List UInt8) : Except CommandError (List UInt8) × Link :=
  ask { l with core := { l.core with txPoolAvailable := false } } .updateCharValue params 1

def updateUpdates (params : List UInt8) : Nat → Nat → Link → List Update
  | 0, _, _ => []
  | rounds + 1, attempt, l =>
    let (answer, l) := l.write params
    ⟨params, answer⟩ ::
      match answer with
      | .ok (status :: _) =>
        if status = 0 then []
        else if status = statusInsufficientResources then
          let attempt := min 65535 (attempt + 1)
          if l.settings.legacyRetry.allows attempt then
            match l.waitTxPool with
            | (.error _, _) => []
            | (.ok (), l) => updateUpdates params rounds attempt l
          else []
        else []
      | _ => []

def updates (l : Link) (params : List UInt8) : List Update :=
  updateUpdates params (l.platform.scripted.length + 1) 0 l

def valueUpdates (l : Link) (service handle : UInt16) (value : List UInt8) : List Update :=
  l.updates (valueParams service handle value)

def notifyUpdates (l : Link) (chunk : List UInt8) : List Update :=
  l.valueUpdates l.core.handles.service l.core.handles.tx chunk

def setupStepUpdates (l : Link) (handles : Handles) (step : SetupStep) : List Update :=
  if step.updates then l.updates (l.setupParams handles step) else []

def setupUpdates : List SetupStep → Handles → Link → List Update
  | [], _, _ => []
  | step :: rest, handles, l =>
    l.setupStepUpdates handles step ++
      match l.setupStep handles step with
      | (.error _, _) => []
      | (.ok handles, l) => setupUpdates rest handles l

def powerUpdates (l : Link) (on : Bool) : List Update :=
  let l := { l with platform := l.platform.switchRadio on, core := l.core.resetLink }
  if on then setupUpdates setupSteps {} { l with core := l.core.resetLink } else []

def performUpdates (l : Link) : Action → List Update
  | .notify chunk => l.notifyUpdates chunk
  | .writeResponse .. => []
  | .powerCycle => (l.power false).2.powerUpdates true

def runUpdates : Nat → Link → List Update
  | 0, _ => []
  | rounds + 1, l =>
    match l.core.nextAction with
    | (none, _) => []
    | (some action, core) =>
      let l := { l with core := core }
      l.performUpdates action ++ runUpdates rounds (l.perform action)

def actionUpdates (l : Link) : List Update :=
  if l.core.actions.isEmpty then [] else runUpdates l.actionBound l

def deferredUpdates (l : Link) : List Update :=
  match l.core.endpoint.takeDeferred with
  | (some reply, endpoint) => (l.withEndpoint endpoint).notifyUpdates reply
  | (none, _) => []

/-- A held reply goes out, and then what has been queued. -/
def replyUpdates (l : Link) : List Update := l.deferredUpdates ++ l.flushDeferred.actionUpdates

/-- A chunk has been notified, and its transmit has unwound. -/
def transmitted (l : Link) (entered : Endpoint .legacy) (chunk : List UInt8) : Link :=
  let l := ((l.withEndpoint entered).notify chunk).2
  l.withEndpoint l.core.endpoint.leaveTransmit

def chunkUpdates (data : List UInt8) : Nat → Link → List Update
  | 0, _ => []
  | steps + 1, l =>
    match l.core.endpoint.nextChunk data with
    | (none, _) => []
    | (some chunk, endpoint) =>
      match endpoint.enterTransmit with
      | (.error _, _) => []
      | (.ok (), endpoint) =>
        (l.withEndpoint endpoint).notifyUpdates chunk ++
          ((l.transmitted endpoint chunk).replyUpdates ++
            match ((l.withEndpoint endpoint).notify chunk).1 with
            | .error _ => []
            | .ok () => chunkUpdates data steps
              (l.transmitted endpoint chunk).flushDeferred.runActions)

def sendUpdates (l : Link) (data : List UInt8) : List Update :=
  match l.core.endpoint.beginSend data.length with
  | (.error _, _) => []
  | (.ok (), endpoint) =>
    let sent := (sendChunks data (data.length + 1) (l.withEndpoint endpoint)).2
    chunkUpdates data (data.length + 1) (l.withEndpoint endpoint) ++
      (sent.withEndpoint sent.core.endpoint.finishSend).replyUpdates

/-- These updates are all that the platform has got, and the message that is being sent is the same;
at most it has been cancelled. -/
structure Asks (l : Link) (updates : List Update) (after : Link) : Prop where
  keeps : l.core.KeepsSend after.core
  logged : after.platform.updates = l.platform.updates ++ updates.flatMap Update.written

theorem Asks.trans {a b c : Link} {past later : List Update} (first : a.Asks past b)
    (second : b.Asks later c) : a.Asks (past ++ later) c where
  keeps := first.keeps.trans second.keeps
  logged := by
    rw [second.logged, first.logged, List.flatMap_append, List.append_assoc]

theorem Asks.next {a b c : Link} {updates : List Update} (first : a.Asks [] b)
    (second : b.Asks updates c) : a.Asks updates c := first.trans second

theorem Asks.silent {l after : Link} (keeps : l.core.KeepsSend after.core)
    (frames : after.platform.frames = l.platform.frames) : l.Asks [] after where
  keeps := keeps
  logged := by
    rw [Platform.updates, frames]
    exact (List.append_nil _).symm

theorem Asks.refl (l : Link) : l.Asks [] l := .silent (.of_eq rfl rfl) rfl

theorem ask_asks (l : Link) {command : Command}
    (other : command.opcode ≠ Command.updateCharValue.opcode) (params : List UInt8) (room : Nat) :
    l.Asks [] (l.ask command params room).2 where
  keeps := Requester.ask_keeps Core.listener_keeps ..
  logged := by
    simp only [Platform.updates, ask, Requester.ask_frames, List.filter_append, List.flatMap_nil]
    congr 1
    refine List.filter_eq_nil_iff.mpr fun frame written => ?_
    rw [Request.opcode_of_written written, beq_iff_eq]
    exact other

theorem write_asks (l : Link) (params : List UInt8) :
    l.Asks [⟨params, (l.write params).1⟩] (l.write params).2 where
  keeps :=
    have cleared : l.core.KeepsSend { l.core with txPoolAvailable := false } := .of_eq rfl rfl
    cleared.trans (Requester.ask_keeps Core.listener_keeps ..)
  logged := by
    simp only [Platform.updates, write, ask, Requester.ask_frames, List.filter_append,
      List.flatMap_singleton]
    congr 1
    refine List.filter_eq_self.mpr fun frame written => ?_
    rw [Request.opcode_of_written written, beq_iff_eq]

theorem waitTxPool_asks (l : Link) : l.Asks [] l.waitTxPool.2 := by
  unfold waitTxPool
  split
  · exact .silent (awaitPool_keeps Core.listener_keeps ..) rfl
  · exact .silent (.of_eq rfl rfl) (by simp [Platform.pause, Platform.frames])

/-- A value is written until it is taken, the write or the wait for a buffer fails, or the retries
are used up. -/
inductive Writes (params : List UInt8) :
    Link → List Update → Except WriteError Unit → Link → Prop
  | exhausted (l : Link) : Writes params l [] (.error .io) l
  | ended {l : Link} {result : Except WriteError Unit}
      (honest : result = .ok () → Update.accepted ⟨params, (l.write params).1⟩ = true) :
      Writes params l [⟨params, (l.write params).1⟩] result (l.write params).2
  | stranded {l : Link} (error : WriteError) :
      Writes params l [⟨params, (l.write params).1⟩] (.error error)
        (l.write params).2.waitTxPool.2
  | again {l after : Link} {updates : List Update} {result : Except WriteError Unit}
      (refused : Update.refused ⟨params, (l.write params).1⟩ = true)
      (rest : Writes params (l.write params).2.waitTxPool.2 updates result after) :
      Writes params l (⟨params, (l.write params).1⟩ :: updates) result after

theorem updateWithin_writes (params : List UInt8) (rounds attempt : Nat) (l : Link) :
    Writes params l (updateUpdates params rounds attempt l)
      (updateWithin params rounds attempt l).1 (updateWithin params rounds attempt l).2 := by
  induction rounds generalizing attempt l with
  | zero => exact .exhausted l
  | succ rounds ih =>
    have ended {result : Except WriteError Unit} :=
      @Writes.ended params l result
    have stranded := @Writes.stranded params l
    have again := @Writes.again params l
    simp only [updateUpdates, updateWithin]
    rw [show ask _ _ params 1 = l.write params from rfl]
    generalize l.write params = out at *
    obtain ⟨answer, after⟩ := out
    match answer with
    | .error _ => exact ended nofun
    | .ok [] => exact ended fun _ => rfl
    | .ok (status :: _) =>
      by_cases taken : status = 0
      · simp only [if_pos taken]
        exact ended fun _ => beq_iff_eq.mpr taken
      · by_cases full : status = statusInsufficientResources
        · by_cases retry : after.settings.legacyRetry.allows (min 65535 (attempt + 1)) = true
          · simp only [if_neg taken, if_pos full, if_pos retry]
            cases waited : after.waitTxPool with
            | mk result paused =>
              rw [waited] at stranded again
              cases result with
              | error error => exact stranded error
              | ok => exact again (beq_iff_eq.mpr (congrArg some full)) (ih _ paused)
          · simp only [if_neg taken, if_pos full, if_neg retry]
            exact ended nofun
        · simp only [if_neg taken, if_neg full]
          exact ended nofun

theorem update_writes (l : Link) (params : List UInt8) :
    Writes params l (l.updates params) (l.update params).1 (l.update params).2 :=
  updateWithin_writes params _ 0 l

theorem notify_writes (l : Link) (chunk : List UInt8) :
    Writes (valueParams l.core.handles.service l.core.handles.tx chunk) l (l.notifyUpdates chunk)
      (l.notify chunk).1 (l.notify chunk).2 :=
  l.update_writes _

theorem Writes.asks {params : List UInt8} {l after : Link} {updates : List Update}
    {result : Except WriteError Unit} (writes : Writes params l updates result after) :
    l.Asks updates after := by
  induction writes with
  | exhausted l => exact .refl l
  | ended => exact write_asks _ params
  | stranded => exact (write_asks _ params).trans (waitTxPool_asks _)
  | again refused rest ih =>
    exact (write_asks _ params).trans ((waitTxPool_asks _).next ih)

theorem update_asks (l : Link) (params : List UInt8) :
    l.Asks (l.updates params) (l.update params).2 := (l.update_writes params).asks

theorem notify_asks (l : Link) (chunk : List UInt8) :
    l.Asks (l.notifyUpdates chunk) (l.notify chunk).2 :=
  l.update_asks _

theorem command_asks (l : Link) {command : Command}
    (other : command.opcode ≠ Command.updateCharValue.opcode) (params : List UInt8) :
    l.Asks [] (l.command command params).2 := by
  have asked := l.ask_asks other params 1
  unfold Link.command
  split <;> rename_i shape <;> rw [shape] at asked <;> exact asked

theorem askHandles_asks (l : Link) {command : Command}
    (other : command.opcode ≠ Command.updateCharValue.opcode) (params : List UInt8)
    (count : Nat) : l.Asks [] (l.askHandles command params count).2 := by
  have asked := l.ask_asks other params (1 + 2 * count)
  unfold askHandles
  split <;> rename_i shape <;> rw [shape] at asked
  · exact asked
  · split
    · exact asked
    · split <;> exact asked

theorem plainStep_asks (l : Link) {command : Command}
    (other : command.opcode ≠ Command.updateCharValue.opcode) (params : List UInt8)
    (handles : Handles) : l.Asks [] (l.plainStep command params handles).2 := by
  have asked := l.command_asks other params
  unfold plainStep
  split <;> rename_i shape <;> rw [shape] at asked <;> exact asked

end Link

end Legacy

end CardLink
