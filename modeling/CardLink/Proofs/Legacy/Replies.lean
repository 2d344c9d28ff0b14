import CardLink.Proofs.Legacy.Updates

namespace CardLink.Legacy

namespace Link

theorem Writes.params {params : List UInt8} {l after : Link} {updates : List Update}
    {result : Except WriteError Unit} (writes : Writes params l updates result after) :
    ∀ u ∈ updates, u.params = params := by
  induction writes with
  | exhausted => exact nofun
  | ended | stranded => exact fun u one => List.mem_singleton.mp one ▸ rfl
  | again refused rest ih => exact List.forall_mem_cons.mpr ⟨rfl, ih⟩

/-- The updates are all that the controller has got, and no part of a message. -/
structure Quiet (l : Link) (updates : List Update) (after : Link) : Prop extends
    l.Asks updates after where
  control : ∀ u ∈ updates, u.isMessage = false

theorem Asks.quiet {l after : Link} (asks : l.Asks [] after) : l.Quiet [] after where
  toAsks := asks
  control := nofun

theorem Quiet.trans {a b c : Link} {past later : List Update} (first : a.Quiet past b)
    (second : b.Quiet later c) : a.Quiet (past ++ later) c where
  toAsks := first.toAsks.trans second.toAsks
  control := List.forall_mem_append.mpr ⟨first.control, second.control⟩

theorem Quiet.next {a b c : Link} {updates : List Update} (first : a.Quiet [] b)
    (second : b.Quiet updates c) : a.Quiet updates c := first.trans second

theorem update_quiet (l : Link) (service handle : UInt16) {value : List UInt8}
    (control : (Chunk.tag? .legacy value == some .apdu && decide (3 ≤ value.length)) = false) :
    l.Quiet (l.updates (valueParams service handle value))
      (l.update (valueParams service handle value)).2 where
  toAsks := l.update_asks _
  control u written := by
    have params := (l.update_writes _).params u written
    simp only [Update.isMessage, Update.value, params]
    exact control

theorem notify_quiet (l : Link) {chunk : List UInt8}
    (control : Chunk.tag? .legacy chunk ≠ some .apdu) :
    l.Quiet (l.notifyUpdates chunk) (l.notify chunk).2 :=
  l.update_quiet _ _ (by rw [beq_false_of_ne control, Bool.false_and])

theorem setupStep_quiet (l : Link) (handles : Handles) (step : SetupStep) :
    l.Quiet (l.setupStepUpdates handles step) (l.setupStep handles step).2 := by
  have given (command : Command) (other : command.opcode ≠ Command.updateCharValue.opcode)
      (params : List UInt8) (count : Nat) {out : Except CommandError (List UInt8) × Link}
      (asks : l.askHandles command params count = out) : l.Asks [] out.2 :=
    asks ▸ l.askHandles_asks other params count
  cases step with
  | writeAddress | gattInit | authRequirement | txPower | scanResponse | discoverable =>
    exact (l.plainStep_asks (by decide) _ handles).quiet
  | gapInit | addService | addTxChar | addRxChar =>
    rw [setupStepUpdates, if_neg (by decide)]
    simp only [setupStep]
    split <;> rename_i shape
    · exact (given _ (by decide) _ _ shape).quiet
    · refine ((given _ (by decide) _ _ shape).next ?_).quiet
      exact .silent (.of_eq rfl rfl) rfl
  | deviceName => exact l.update_quiet _ _ (by decide +kernel)
  | appearance => exact l.update_quiet _ _ (Bool.and_false _)

theorem setupRun_quiet (steps : List SetupStep) (handles : Handles) (l : Link) :
    l.Quiet (setupUpdates steps handles l) (setupRun steps handles l).2 := by
  induction steps generalizing handles l with
  | nil => exact (Asks.refl l).quiet
  | cons step rest ih =>
    have stepped := l.setupStep_quiet handles step
    simp only [setupUpdates, setupRun]
    generalize l.setupStep handles step = out at *
    obtain ⟨_ | handles, after⟩ := out
    · simpa only [List.append_nil] using stepped
    · exact stepped.trans (ih handles after)

theorem resetLink_asks (l : Link) : l.Asks [] { l with core := l.core.resetLink } :=
  .silent l.core.resetLink_keepsSend rfl

theorem setup_quiet (l : Link) :
    l.Quiet (setupUpdates setupSteps {} { l with core := l.core.resetLink }) l.setup.2 :=
  l.resetLink_asks.quiet.next (setupRun_quiet setupSteps {} _)

theorem power_quiet (l : Link) (on : Bool) : l.Quiet (l.powerUpdates on) (l.power on).2 := by
  have switched : l.Asks []
      { l with platform := l.platform.switchRadio on, core := l.core.resetLink } :=
    .silent l.core.resetLink_keepsSend (by simp [Platform.switchRadio, Platform.frames])
  cases on with
  | false => exact switched.quiet
  | true => exact switched.quiet.next (setup_quiet _)

theorem perform_quiet (l : Link) {action : Action}
    (control : ∀ chunk, action = .notify chunk → Chunk.tag? .legacy chunk ≠ some .apdu) :
    l.Quiet (l.performUpdates action) (l.perform action) := by
  cases action with
  | notify chunk => exact l.notify_quiet (control chunk rfl)
  | writeResponse connection attr data => exact (l.command_asks (by decide) _).quiet
  | powerCycle => exact (l.power_quiet false).next ((l.power false).2.power_quiet true)

theorem runWithin_quiet (rounds : Nat) {l : Link} (controls : l.core.Controls) :
    l.Quiet (runUpdates rounds l) (runWithin rounds l) := by
  induction rounds generalizing l with
  | zero => exact (Asks.refl l).quiet
  | succ rounds ih =>
    simp only [runUpdates, runWithin, Core.nextAction]
    match queued : l.core.actions with
    | [] => exact (Asks.refl l).quiet
    | action :: rest =>
      obtain ⟨held, control⟩ := controls
      rw [queued] at control
      have safe : Core.Controls { l.core with actions := rest } :=
        ⟨held, fun chunk later => control chunk (.tail _ later)⟩
      have taken : l.Asks [] { l with core := { l.core with actions := rest } } :=
        .silent ⟨.refl _, fun _ => safe⟩ rfl
      have performed := perform_quiet { l with core := { l.core with actions := rest } }
        fun chunk notified => control chunk (notified ▸ List.mem_cons_self)
      exact taken.quiet.next (performed.trans (ih (performed.keeps.controls safe)))

theorem runActions_quiet {l : Link} (controls : l.core.Controls) :
    l.Quiet l.actionUpdates l.runActions := by
  unfold actionUpdates runActions
  split
  · exact (Asks.refl l).quiet
  · exact runWithin_quiet _ controls

theorem flushDeferred_quiet {l : Link} (controls : l.core.Controls) :
    l.Quiet l.deferredUpdates l.flushDeferred := by
  have keeps := l.core.endpoint.takeDeferred_keepsSend
  have taken : ∀ reply, l.core.endpoint.takeDeferred.2.held = some reply →
      l.core.endpoint.held = some reply ∨ Chunk.tag? .legacy reply ≠ some .apdu := by
    unfold Endpoint.takeDeferred
    split
    · exact fun _ held => .inl held
    · exact nofun
  have now : ∀ reply, l.core.endpoint.takeDeferred.1 = some reply →
      Chunk.tag? .legacy reply ≠ some .apdu := by
    unfold Endpoint.takeDeferred
    split
    · exact nofun
    · exact controls.held
  have freed : l.Asks [] (l.withEndpoint l.core.endpoint.takeDeferred.2) :=
    .silent (.of_endpoint keeps taken) rfl
  unfold deferredUpdates flushDeferred
  generalize l.core.endpoint.takeDeferred = out at *
  obtain ⟨_ | reply, endpoint⟩ := out
  · exact freed.quiet
  · exact freed.quiet.next (notify_quiet _ (now reply rfl))

theorem replies_quiet {l : Link} (controls : l.core.Controls) :
    l.Quiet l.replyUpdates l.flushDeferred.runActions :=
  (flushDeferred_quiet controls).trans
    (runActions_quiet ((flushDeferred_quiet controls).keeps.controls controls))

end Link

end CardLink.Legacy
