import CardLink.Proofs.Legacy.Delivery

namespace CardLink.Legacy

namespace Link

/-- The property survives a command, an event between commands, and any change of the core or the
platform, so every operation leaves it as it is. -/
structure Lasting (P : Link → Prop) : Prop where
  ask : ∀ {l}, P l → ∀ command params room, P (l.ask command params room).2
  takeEvent : ∀ {l}, P l → ∀ event core,
    P { l with requester := (takeEvent event l.requester core).1 }
  core : ∀ {l}, P l → ∀ core, P { l with core := core }
  platform : ∀ {l}, P l → ∀ platform, P { l with platform := platform }

namespace Lasting

variable {P : Link → Prop} {l : Link}

theorem awaitPool (lasting : Lasting P) (events : List PlatformEvent) {r : Requester}
    (holds : P { l with requester := r }) (c : Core) :
    P { l with requester := (awaitPool events r c).2.2.1 } := by
  induction events generalizing r c with
  | nil =>
    simp only [Legacy.awaitPool]
    split
    · exact holds
    · split <;> exact holds
  | cons event rest ih =>
    simp only [Legacy.awaitPool]
    split
    · exact holds
    · split
      · exact holds
      · exact ih (lasting.takeEvent holds event c) _

theorem waitTxPool (lasting : Lasting P) (holds : P l) : P l.waitTxPool.2 := by
  unfold Link.waitTxPool
  split
  · have waited := lasting.awaitPool l.platform.queue (r := l.requester) holds l.core
    exact lasting.core (lasting.platform waited _) _
  · exact lasting.platform holds _

theorem write (lasting : Lasting P) (holds : P l) (params : List UInt8) :
    P (l.write params).2 :=
  lasting.ask (lasting.core holds _) _ _ _

theorem writes (lasting : Lasting P) {params : List UInt8} {after : Link} {updates : List Update}
    {result : Except WriteError Unit} (writes : Writes params l updates result after)
    (holds : P l) : P after := by
  induction writes with
  | exhausted => exact holds
  | ended => exact lasting.write holds params
  | stranded => exact lasting.waitTxPool (lasting.write holds params)
  | again _ _ ih => exact ih (lasting.waitTxPool (lasting.write holds params))

theorem update (lasting : Lasting P) (holds : P l) (params : List UInt8) :
    P (l.update params).2 :=
  lasting.writes (l.update_writes params) holds

theorem notify (lasting : Lasting P) (holds : P l) (chunk : List UInt8) :
    P (l.notify chunk).2 :=
  lasting.update holds _

theorem command (lasting : Lasting P) (holds : P l) (command : Command) (params : List UInt8) :
    P (l.command command params).2 := by
  have asked := lasting.ask holds command params 1
  unfold Link.command
  split <;> rename_i shape <;> rw [shape] at asked <;> exact asked

theorem askHandles (lasting : Lasting P) (holds : P l) (command : Command) (params : List UInt8)
    (count : Nat) : P (l.askHandles command params count).2 := by
  have asked := lasting.ask holds command params (1 + 2 * count)
  unfold Link.askHandles
  split <;> rename_i shape <;> rw [shape] at asked
  · exact asked
  · split
    · exact asked
    · split <;> exact asked

theorem plainStep (lasting : Lasting P) (holds : P l) (command : Command) (params : List UInt8)
    (handles : Handles) : P (l.plainStep command params handles).2 := by
  have asked := lasting.command holds command params
  unfold Link.plainStep
  split <;> rename_i shape <;> rw [shape] at asked <;> exact asked

theorem setupStep (lasting : Lasting P) (holds : P l) (handles : Handles) (step : SetupStep) :
    P (l.setupStep handles step).2 := by
  have given {command : Command} {params : List UInt8} {count : Nat}
      {out : Except CommandError (List UInt8) × Link}
      (asked : l.askHandles command params count = out) : P out.2 :=
    asked ▸ lasting.askHandles holds command params count
  cases step with
  | writeAddress | gattInit | authRequirement | txPower | scanResponse | discoverable =>
    exact lasting.plainStep holds _ _ handles
  | gapInit | addService | addTxChar =>
    simp only [Link.setupStep]
    split <;> rename_i shape <;> exact given shape
  | addRxChar =>
    simp only [Link.setupStep]
    split <;> rename_i shape
    · exact given shape
    · exact lasting.core (given shape) _
  | deviceName | appearance => exact lasting.update holds _

theorem setupRun (lasting : Lasting P) (holds : P l) (steps : List SetupStep)
    (handles : Handles) : P (setupRun steps handles l).2 := by
  induction steps generalizing handles l with
  | nil => exact holds
  | cons step rest ih =>
    have stepped := lasting.setupStep holds handles step
    simp only [Link.setupRun]
    split <;> rename_i shape <;> rw [shape] at stepped
    · exact stepped
    · exact ih stepped _

theorem setup (lasting : Lasting P) (holds : P l) : P l.setup.2 :=
  lasting.setupRun (lasting.core holds _) setupSteps {}

theorem power (lasting : Lasting P) (holds : P l) (on : Bool) : P (l.power on).2 := by
  have switched := lasting.core (lasting.platform holds (l.platform.switchRadio on))
    l.core.resetLink
  cases on with
  | false => exact switched
  | true => exact lasting.setup switched

theorem perform (lasting : Lasting P) (holds : P l) (action : Action) : P (l.perform action) := by
  cases action with
  | notify chunk => exact lasting.notify holds chunk
  | writeResponse => exact lasting.command holds _ _
  | powerCycle => exact lasting.power (lasting.power holds false) true

theorem runWithin (lasting : Lasting P) (holds : P l) (rounds : Nat) :
    P (runWithin rounds l) := by
  induction rounds generalizing l with
  | zero => exact holds
  | succ rounds ih =>
    simp only [Link.runWithin]
    split
    · exact holds
    · rename_i action core _
      exact ih (lasting.perform (lasting.core holds core) action)

theorem runActions (lasting : Lasting P) (holds : P l) : P l.runActions := by
  unfold Link.runActions
  split
  · exact holds
  · exact lasting.runWithin holds _

theorem flushDeferred (lasting : Lasting P) (holds : P l) : P l.flushDeferred := by
  unfold Link.flushDeferred
  split
  · exact lasting.notify (lasting.core holds _) _
  · exact lasting.core holds _

theorem transmits (lasting : Lasting P) {data : List UInt8} {steps : Nat} {after : Link}
    {updates : List Update} {result : Except SendError Unit}
    (transmits : Transmits data steps l updates result after) (holds : P l) : P after := by
  have passed {l : Link} (holds : P l) (entered : Endpoint .legacy) (chunk : List UInt8) :
      P (l.transmitted entered chunk).flushDeferred.runActions := by
    have notified := lasting.notify (lasting.core holds { l.core with endpoint := entered }) chunk
    exact lasting.runActions (lasting.flushDeferred (lasting.core notified _))
  induction transmits with
  | exhausted => exact holds
  | done | cancelled => exact lasting.core holds _
  | failed => exact passed holds _ _
  | sent _ _ _ _ ih => exact ih (passed holds _ _)

theorem send (lasting : Lasting P) (holds : P l) (data : List UInt8) : P (l.send data).2 := by
  unfold Link.send
  split
  · exact lasting.core holds _
  · rename_i endpoint _
    have sent := lasting.transmits (sendChunks_transmits data (data.length + 1)
      (l.withEndpoint endpoint)) (lasting.core holds _)
    exact lasting.runActions (lasting.flushDeferred (lasting.core sent _))

theorem operate (lasting : Lasting P) (holds : P l) (operation : Operation) :
    P (l.operate operation) := by
  cases operation with
  | script platform => exact lasting.platform holds platform
  | poll => exact lasting.core holds _
  | power on => exact lasting.power holds on
  | setup => exact lasting.setup holds
  | makeDiscoverable => exact lasting.setupRun holds _ _
  | processEvent =>
    simp only [Link.operate, processEvent]
    split
    · exact holds
    · rename_i event _ _
      have taken := lasting.takeEvent holds event l.core
      exact lasting.runActions (lasting.core (lasting.platform taken _) _)
  | send data => exact lasting.send holds data

theorem reachable (lasting : Lasting P) {settings : Settings} {serial : List UInt8}
    (reachable : Reachable settings serial l)
    (create : ∀ platform, P (.create settings serial platform)) : P l := by
  induction reachable with
  | create platform => exact create platform
  | operate _ operation ih => exact lasting.operate ih operation

end Lasting

end Link

theorem takeEvent_reach {size period : Nat} (event : PlatformEvent) {r : Requester}
    (reach : Requester.Reach size period r) (c : Core) :
    Requester.Reach size period (takeEvent event r c).1 := by
  cases event with
  | hci raw => exact reach.delivered Core.listener raw c
  | tick | usb | other => exact reach

namespace Link

/-- The requester is one that there can be between two uses. -/
def Rests (l : Link) : Prop :=
  ∃ period, Requester.Reach SlotPool.standardSize period l.requester

theorem rests_lasting : Lasting Rests where
  ask := fun {l} ⟨period, reach⟩ _ _ _ => ⟨period, reach.asked Core.listener _ l.platform l.core⟩
  takeEvent := fun ⟨period, reach⟩ event core => ⟨period, takeEvent_reach event reach core⟩
  core rests _ := rests
  platform rests _ := rests

theorem Reachable.rests {settings : Settings} {serial : List UInt8} {l : Link}
    (reachable : Reachable settings serial l) : l.Rests :=
  rests_lasting.reachable reachable fun _ => ⟨Settings.microseconds settings.tick, .start⟩

end Link

end CardLink.Legacy
