import CardLink.Proofs.Legacy.Setup

namespace CardLink.Legacy

namespace Core

theorem push_handles (c : Core) (action : Action) : (c.push action).handles = c.handles := by
  unfold push
  split <;> rfl

theorem feed_handles (c : Core) (chunk : List UInt8) : (c.feed chunk).handles = c.handles := by
  unfold feed
  split
  · exact push_handles _ _
  · rfl
  · rfl
  · split
    · rfl
    · split
      · exact push_handles _ _
      · rfl

theorem onVendor_handles (c : Core) (packet : EventPacket) :
    (c.onVendor packet).handles = c.handles := by
  unfold onVendor
  split
  · unfold onAttributeModified
    split
    · split <;> rfl
    · rfl
  · unfold onWritePermit
    split
    · rw [push_handles]
      split
      · exact c.feed_handles _
      · rfl
    · rfl
  · rfl
  · rfl

/-- No event changes the handles. -/
theorem listener_keepsHandles : listener.Keeps fun c after => after.handles = c.handles where
  refl _ := rfl
  trans first second := second.trans first
  packet packet c := by
    simp only [listener, onPacket]
    split
    · exact push_handles _ _
    · split
      · unfold onLeMeta
        split
        · split <;> rfl
        · rfl
      · split
        · exact c.onVendor_handles packet
        · rfl
  tick c := by
    simp only [listener, onTick]
    split
    · exact push_handles _ _
    · rfl
  unrouted _ _ := rfl

end Core

namespace Link

variable {l after ended : Link} {params : List UInt8} {given : Handles} {step : SetupStep}
  {steps : List SetupStep} {attempts : List SetupAttempt} {result : Except CommandError Unit}

theorem ask_handles (l : Link) (command : Command) (params : List UInt8) (room : Nat) :
    (l.ask command params room).2.core.handles = l.core.handles :=
  Requester.ask_keeps Core.listener_keepsHandles ..

theorem waitTxPool_handles (l : Link) : l.waitTxPool.2.core.handles = l.core.handles := by
  unfold waitTxPool
  split
  · exact awaitPool_keeps Core.listener_keepsHandles ..
  · rfl

theorem waitTxPool_settings (l : Link) : l.waitTxPool.2.settings = l.settings := by
  unfold waitTxPool
  split <;> rfl

/-- A link that is about to write a value again, or has done so. -/
theorem again_same (l : Link) (params : List UInt8) :
    (l.write params).2.waitTxPool.2.core.handles = l.core.handles ∧
      (l.write params).2.waitTxPool.2.settings = l.settings :=
  ⟨(waitTxPool_handles _).trans (ask_handles _ _ _ _), waitTxPool_settings _⟩

theorem Writes.handles {updates : List Update} {outcome : Except WriteError Unit}
    (writes : Writes params l updates outcome after) : after.core.handles = l.core.handles := by
  induction writes with
  | exhausted => rfl
  | ended => exact ask_handles _ _ _ _
  | stranded => exact (again_same _ params).1
  | again _ _ ih => exact ih.trans (again_same _ params).1

theorem attempts_same {count : Nat} {m : Link} (written : m ∈ l.attempts params count) :
    m.core.handles = l.core.handles ∧ m.settings = l.settings := by
  induction count generalizing l with
  | zero => cases written
  | succ count ih =>
    obtain rfl | later := List.mem_cons.mp written
    · exact ⟨rfl, rfl⟩
    · obtain ⟨handles, settings⟩ := ih later
      obtain ⟨same, kept⟩ := l.again_same params
      exact ⟨handles.trans same, settings.trans kept⟩

theorem setupParams_length (l : Link) (handles : Handles) (step : SetupStep)
    (short : l.address.length ≤ 253) : (l.setupParams handles step).length ≤ 255 := by
  cases step with
  | writeAddress =>
    rw [setupParams, List.length_append]
    exact Nat.add_le_add_left short 2
  | discoverable =>
    have name : (Advertising.localName (Advertising.utf8 l.name)).length ≤ 31 := by
      rw [Advertising.localName, List.length_cons, List.length_take]
      exact Nat.succ_le_succ (Nat.min_le_left ..)
    simp only [setupParams, discoverableParams, List.length_append, Word.length_little,
      List.length_cons, List.length_nil]
    omega
  | gattInit | gapInit | authRequirement | addService | addTxChar | addRxChar | txPower
  | scanResponse | deviceName | appearance => exact Nat.le_of_ble_eq_true rfl

theorem ask_tried (rests : l.Rests) (command : Command) (room : Nat)
    (short : params.length ≤ 255) : (l.ask command params room).2.platform.tried =
      l.platform.tried ++ [(l.request command params room).frame] := by
  obtain ⟨period, reach⟩ := rests
  exact (reach.resting (by decide)).ask_tried (by decide) short

theorem waitTxPool_tried (l : Link) : l.waitTxPool.2.platform.tried = l.platform.tried := by
  unfold waitTxPool
  split
  · rfl
  · rename_i backoff _
    have log : (l.platform.pause backoff.toNat).log =
        [.paused backoff.toNat] ++ l.platform.log := rfl
    exact (Platform.tried_of_log log).trans (List.append_nil _)

theorem Writes.tried {updates : List Update} {outcome : Except WriteError Unit}
    (writes : Writes params l updates outcome after) (rests : l.Rests)
    (short : params.length ≤ 255) : after.platform.tried =
      l.platform.tried ++ List.replicate updates.length (updateRequest params).frame := by
  have written {l : Link} (rests : l.Rests) : (l.write params).2.platform.tried =
      l.platform.tried ++ [(updateRequest params).frame] :=
    ask_tried (l := l.cleared) rests .updateCharValue 1 short
  induction writes with
  | exhausted => exact (List.append_nil _).symm
  | ended => exact written rests
  | stranded => exact (waitTxPool_tried _).trans (written rests)
  | again _ _ ih =>
    have still := rests_lasting.waitTxPool (rests_lasting.write rests params)
    rw [ih still, waitTxPool_tried, written rests, List.append_assoc]
    rfl

theorem setupStep_writes (l : Link) (given : Handles) (update : step.updates = true) :
    ∃ outcome, Writes (l.setupParams given step) l (l.setupStepUpdates given step) outcome
      (l.setupStep given step).2 := by
  obtain rfl | rfl := SetupStep.updates_iff.mp update <;> exact ⟨_, l.update_writes _⟩

/-- Every write of a value has the same frame. -/
theorem frame_of_update {m : Link} (given : Handles) (update : step.updates = true)
    (handles : m.core.handles = l.core.handles) (settings : m.settings = l.settings) :
    SetupAttempt.frame ⟨step, m.cleared, given⟩ =
      (updateRequest (l.setupParams given step)).frame := by
  have params : m.cleared.setupParams given step = l.setupParams given step := by
    obtain rfl | rfl := SetupStep.updates_iff.mp update <;>
      simp only [setupParams, cleared, handles, settings]
  have command : step.command = .updateCharValue := by
    obtain rfl | rfl := SetupStep.updates_iff.mp update <;> rfl
  simp only [SetupAttempt.frame, SetupAttempt.request, request, updateRequest, Request.frame,
    params, command]

theorem setupStepAttempts_frames (l : Link) (given : Handles) (update : step.updates = true) :
    (l.setupStepAttempts given step).map SetupAttempt.frame =
      List.replicate (l.setupStepUpdates given step).length
        (updateRequest (l.setupParams given step)).frame := by
  rw [setupStepAttempts, update, if_pos rfl, List.map_map]
  refine List.eq_replicate_iff.mpr ⟨?_, fun frame tried => ?_⟩
  · rw [List.length_map, length_attempts]
  · obtain ⟨m, written, rfl⟩ := List.mem_map.mp tried
    obtain ⟨handles, settings⟩ := attempts_same written
    exact frame_of_update given update handles settings

theorem Lasting.learns {P : Link → Prop} (lasting : Lasting P) (holds : P l) (given : Handles)
    (step : SetupStep) : P (l.learns given step) := by
  unfold Link.learns
  split
  · exact lasting.core holds _
  · exact holds

theorem learns_platform (l : Link) (given : Handles) (step : SetupStep) :
    (l.learns given step).platform = l.platform := by
  unfold learns
  split <;> rfl

theorem learns_of_ne (other : step ≠ .addRxChar) : l.learns given step = l := by
  cases step with
  | addRxChar => exact absurd rfl other
  | _ => rfl

theorem address_lasting (address : List UInt8) : Lasting fun l => l.address = address where
  ask same _ _ _ := same
  takeEvent same _ _ := same
  core same _ := same
  platform same _ := same

/-- Every attempt is a frame that is written or refused, and no other one is. -/
theorem Proceeds.tried (proceeds : Proceeds steps given l attempts result ended)
    (rests : l.Rests) (short : l.address.length ≤ 253) :
    ended.platform.tried = l.platform.tried ++ attempts.map SetupAttempt.frame := by
  induction proceeds with
  | done => exact (List.append_nil _).symm
  | @failed step _ given l _ _ _ =>
    exact ask_tried rests _ _ (l.setupParams_length given step short)
  | @completed step _ given l _ reply _ _ _ _ _ ih =>
    have asked := ask_tried rests step.command (max 1 step.replyLength)
      (l.setupParams_length given step short)
    have still := rests_lasting.learns (rests_lasting.ask rests step.command
      (l.setupParams given step) (max 1 step.replyLength)) (step.gains given reply) step
    have address := (address_lasting l.address).learns (l := SetupAttempt.after ⟨step, l, given⟩)
      rfl (step.gains given reply) step
    rw [ih still (address ▸ short), learns_platform, SetupAttempt.after, SetupAttempt.asked, asked,
      List.append_assoc]
    rfl
  | @updated step _ given l _ _ _ update _ ih =>
    obtain ⟨outcome, writes⟩ := l.setupStep_writes given update
    have address := (address_lasting l.address).setupStep rfl given step
    rw [ih (rests_lasting.setupStep rests given step) (address ▸ short),
      writes.tried rests (l.setupParams_length given step short), List.map_append,
      l.setupStepAttempts_frames given update, List.append_assoc]

end Link

/-- The handles with those of the reply, if the command was completed. -/
def SetupAttempt.gained (a : SetupAttempt) (handles : Handles) : Handles :=
  match a.outcome with
  | .ok reply => a.step.gains handles reply
  | .error _ => handles

/-- The handles of all the replies. -/
def collected (attempts : List SetupAttempt) : Handles :=
  attempts.foldl (fun handles a => a.gained handles) {}

def Added (step : SetupStep) (attempts : List SetupAttempt) : Prop :=
  ∃ a ∈ attempts, a.step = step ∧ a.Completed

/-- The core knows the handles of the replies once both characteristics are there, and the old ones
until then. -/
structure Knows (old : Handles) (past : List SetupAttempt) (handles : Handles) : Prop where
  added : Added .addTxChar past → Added .addRxChar past → handles = collected past
  before : ¬(Added .addTxChar past ∧ Added .addRxChar past) → handles = old

theorem added_append {step : SetupStep} {past block : List SetupAttempt} :
    Added step (past ++ block) ↔ Added step past ∨ Added step block := by
  simp only [Added, List.mem_append, or_and_right, exists_or]

theorem added_singleton {step : SetupStep} {a : SetupAttempt} :
    Added step [a] ↔ a.step = step ∧ a.Completed := by
  simp only [Added, List.mem_singleton, exists_eq_left]

theorem not_added_nil {step : SetupStep} : ¬Added step [] := by
  rintro ⟨_, missing, -⟩
  cases missing

theorem collected_append (past : List SetupAttempt) (a : SetupAttempt) :
    collected (past ++ [a]) = a.gained (collected past) := List.foldl_concat ..

/-- The command gives no handles. -/
def SetupAttempt.Barren (a : SetupAttempt) : Prop :=
  a.step.replyLength = 0 ∨ ∃ error, a.outcome = .error error

theorem SetupAttempt.Barren.gained {a : SetupAttempt} (barren : a.Barren) (handles : Handles) :
    a.gained handles = handles := by
  obtain ⟨step, link, given⟩ := a
  unfold SetupAttempt.gained
  rcases barren with plain | ⟨error, failed⟩
  · split
    · cases step with
      | gapInit | addService | addTxChar | addRxChar => cases plain
      | writeAddress | gattInit | authRequirement | txPower | scanResponse | deviceName
      | appearance | discoverable => rfl
    · rfl
  · rw [failed]

variable {old handles : Handles} {past block later : List SetupAttempt} {step : SetupStep}

theorem not_added_of_barren (barren : ∀ a ∈ block, a.Barren) (handing : step.replyLength ≠ 0) :
    ¬Added step block := by
  rintro ⟨a, member, rfl, completed⟩
  rcases barren a member with plain | ⟨error, failed⟩
  · exact handing plain
  · exact SetupAttempt.not_completed failed completed

theorem added_barren (barren : ∀ a ∈ block, a.Barren) (handing : step.replyLength ≠ 0) :
    Added step (past ++ block) ↔ Added step past :=
  added_append.trans (or_iff_left (not_added_of_barren barren handing))

theorem collected_barren (barren : ∀ a ∈ block, a.Barren) :
    collected (past ++ block) = collected past := by
  induction block generalizing past with
  | nil => rw [List.append_nil]
  | cons a rest ih =>
    obtain ⟨first, barren⟩ := List.forall_mem_cons.mp barren
    rw [List.append_cons, ih barren, collected_append, first.gained]

theorem Knows.barren (knows : Knows old past handles) (barren : ∀ a ∈ block, a.Barren) :
    Knows old (past ++ block) handles := by
  have tx : Added .addTxChar (past ++ block) ↔ _ := added_barren barren (by decide)
  have rx : Added .addRxChar (past ++ block) ↔ _ := added_barren barren (by decide)
  refine ⟨fun hasTx hasRx => ?_, fun neither => knows.before ?_⟩
  · rw [collected_barren barren]
    exact knows.added (tx.mp hasTx) (rx.mp hasRx)
  · rwa [tx, rx] at neither

/-- Each command finds what is known by the ones before it. -/
def Informed (old : Handles) (past attempts : List SetupAttempt) : Prop :=
  ∀ earlier a later, attempts = earlier ++ a :: later →
    Knows old (past ++ earlier) a.link.core.handles

theorem Informed.append (first : Informed old past block)
    (second : Informed old (past ++ block) later) : Informed old past (block ++ later) := by
  intro earlier a rest split
  rcases List.append_eq_append_iff.mp split with ⟨between, rfl, behind⟩ | ⟨between, whole, behind⟩
  · rw [← List.append_assoc]
    exact second between a rest behind
  · cases between with
    | nil =>
      rw [List.append_nil] at whole
      have knows := second [] a rest behind.symm
      rwa [List.append_nil, whole] at knows
    | cons head between =>
      obtain ⟨rfl, rfl⟩ := List.cons.inj behind
      exact first earlier a between whole

theorem informed_of_barren {known : Handles} (knows : Knows old past known)
    (barren : ∀ a ∈ block, a.Barren) (same : ∀ a ∈ block, a.link.core.handles = known) :
    Informed old past block := by
  rintro earlier a later rfl
  rw [same a (List.mem_append_right _ (List.mem_cons_self ..))]
  exact knows.barren fun b member => barren b (List.mem_append_left _ member)

theorem informed_singleton {a : SetupAttempt} (knows : Knows old past a.link.core.handles) :
    Informed old past [a] := by
  intro earlier b later split
  obtain ⟨rfl, rest⟩ | ⟨earlier, rfl, behind⟩ := List.cons_eq_append_iff.mp split
  · cases rest
    rwa [List.append_nil]
  · cases earlier <;> cases behind

/-- After the second characteristic nothing is handed out. -/
def Apart (steps : List SetupStep) : Prop :=
  steps.Pairwise fun earlier later => earlier = .addRxChar → later.replyLength = 0

namespace Link

variable {l ended : Link} {given : Handles} {steps : List SetupStep} {reply : List UInt8}
  {attempts : List SetupAttempt} {result : Except CommandError Unit}

/-- A run of setup steps goes on behind these attempts: nothing is handed out after the second
characteristic, and the first one is not missing. -/
structure Standing (old : Handles) (past : List SetupAttempt) (steps : List SetupStep)
    (given : Handles) (l : Link) : Prop where
  whole : given = collected past
  knows : Knows old past l.core.handles
  last : Added .addRxChar past → ∀ step ∈ steps, step.replyLength = 0
  first : .addTxChar ∈ steps ∨ Added .addTxChar past

theorem after_handles (a : SetupAttempt) : a.after.core.handles = a.link.core.handles :=
  ask_handles ..

/-- The second characteristic completes the handles, and anything else leaves what is known. -/
theorem Standing.knows_next (standing : Standing old past (step :: steps) given l)
    (apart : Apart (step :: steps)) (completed : SetupAttempt.outcome ⟨step, l, given⟩ = .ok reply)
    (whole : step.gains given reply = collected (past ++ [⟨step, l, given⟩])) :
    Knows old (past ++ [⟨step, l, given⟩]) ((SetupAttempt.after ⟨step, l, given⟩).learns
      (step.gains given reply) step).core.handles := by
  have next := SetupAttempt.completed_of_outcome completed
  by_cases second : step = .addRxChar
  -- The first characteristic is not among the later steps, so it has been added.
  · subst second
    refine ⟨fun _ _ => whole, fun neither => absurd ?_ neither⟩
    refine ⟨?_, added_append.mpr (.inr (added_singleton.mpr ⟨rfl, next⟩))⟩
    rcases standing.first with missing | added
    · obtain same | missing := List.mem_cons.mp missing
      · cases same
      · cases (List.pairwise_cons.mp apart).1 _ missing rfl
    · exact added_append.mpr (.inl added)
  · have same : ((SetupAttempt.after ⟨step, l, given⟩).learns (step.gains given reply)
        step).core.handles = l.core.handles := by
      rw [learns_of_ne second, after_handles]
    rw [same]
    by_cases done : Added .addRxChar past
    -- Once both are there, the step gives no handles; before that, it does not add the second one.
    · exact standing.knows.barren (List.forall_mem_singleton.mpr
        (.inl (standing.last done step (List.mem_cons_self ..))))
    · have missing : ¬Added .addRxChar (past ++ [⟨step, l, given⟩]) := fun added =>
        (added_append.mp added).elim done fun added => second (added_singleton.mp added).1
      exact ⟨fun _ hasRx => absurd hasRx missing, fun _ =>
        standing.knows.before fun both => done both.2⟩

theorem Standing.next (standing : Standing old past (step :: steps) given l)
    (apart : Apart (step :: steps))
    (completed : SetupAttempt.outcome ⟨step, l, given⟩ = .ok reply) :
    Standing old (past ++ [⟨step, l, given⟩]) steps (step.gains given reply)
      ((SetupAttempt.after ⟨step, l, given⟩).learns (step.gains given reply) step) := by
  have whole : step.gains given reply = collected (past ++ [⟨step, l, given⟩]) := by
    rw [collected_append, ← standing.whole, SetupAttempt.gained, completed]
  refine ⟨whole, standing.knows_next apart completed whole, fun added => ?_, ?_⟩
  · rcases added_append.mp added with before | now
    · exact (List.forall_mem_cons.mp (standing.last before)).2
    · exact fun later member => (List.pairwise_cons.mp apart).1 later member
        (added_singleton.mp now).1
  · rcases standing.first with missing | added
    · obtain rfl | missing := List.mem_cons.mp missing
      · exact .inr (added_append.mpr (.inr (added_singleton.mpr
          ⟨rfl, SetupAttempt.completed_of_outcome completed⟩)))
      · exact .inl missing
    · exact .inr (added_append.mpr (.inl added))

theorem setup_standing (l : Link) :
    Standing l.core.handles [] setupSteps {} { l with core := l.core.resetLink } where
  whole := rfl
  knows := ⟨fun added _ => absurd added not_added_nil, fun _ => rfl⟩
  last added := absurd added not_added_nil
  first := .inl (by decide)

theorem setupStepAttempts_barren (update : step.updates = true) :
    ∀ a ∈ l.setupStepAttempts given step, a.Barren := by
  intro a tried
  have plain : step.replyLength = 0 := by
    obtain rfl | rfl := SetupStep.updates_iff.mp update <;> rfl
  exact .inl (mem_setupStepAttempts tried ▸ plain)

theorem setupStepAttempts_handles (update : step.updates = true) :
    ∀ a ∈ l.setupStepAttempts given step, a.link.core.handles = l.core.handles := by
  intro a tried
  rw [setupStepAttempts, update, if_pos rfl] at tried
  obtain ⟨m, written, rfl⟩ := List.mem_map.mp tried
  exact (attempts_same written).1

theorem Standing.updated (standing : Standing old past (step :: steps) given l)
    (update : step.updates = true) :
    Standing old (past ++ l.setupStepAttempts given step) steps given
      (l.setupStep given step).2 := by
  have barren : ∀ a ∈ l.setupStepAttempts given step, a.Barren :=
    setupStepAttempts_barren update
  obtain ⟨outcome, writes⟩ := l.setupStep_writes given update
  refine ⟨?_, ?_, fun added => ?_, ?_⟩
  · rw [collected_barren barren, standing.whole]
  · rw [writes.handles]
    exact standing.knows.barren barren
  · exact (List.forall_mem_cons.mp
      (standing.last ((added_barren barren (by decide)).mp added))).2
  · rcases standing.first with missing | added
    · obtain rfl | missing := List.mem_cons.mp missing
      · cases update
      · exact .inl missing
    · exact .inr (added_append.mpr (.inl added))

theorem Proceeds.informed (proceeds : Proceeds steps given l attempts result ended)
    (apart : Apart steps) (standing : Standing old past steps given l) :
    Informed old past attempts ∧ Knows old (past ++ attempts) ended.core.handles := by
  induction proceeds generalizing past with
  | done =>
    refine ⟨informed_of_barren standing.knows (List.forall_mem_nil _) (List.forall_mem_nil _), ?_⟩
    rw [List.append_nil]
    exact standing.knows
  | failed _ failed =>
    refine ⟨informed_singleton standing.knows, ?_⟩
    rw [after_handles]
    exact standing.knows.barren (List.forall_mem_singleton.mpr (.inr ⟨_, failed⟩))
  | completed _ completed _ ih =>
    obtain ⟨informed, knows⟩ := ih (List.pairwise_cons.mp apart).2 (standing.next apart completed)
    rw [List.append_cons]
    exact ⟨(informed_singleton standing.knows).append informed, knows⟩
  | updated update _ ih =>
    obtain ⟨informed, knows⟩ := ih (List.pairwise_cons.mp apart).2 (standing.updated update)
    rw [← List.append_assoc]
    exact ⟨(informed_of_barren standing.knows (setupStepAttempts_barren update)
      (setupStepAttempts_handles update)).append informed, knows⟩

/-- Setup tries its commands in their order, the name and the appearance once or several times, and
nothing else. It succeeds just if each of them but those two is completed; otherwise the last one
that was tried has failed. The core goes on with the handles that it had until both characteristics
are there, and then has those of the replies. -/
theorem Reachable.setup_in_order {settings : Settings} {serial : List UInt8}
    (reachable : Reachable settings serial l) :
    l.setup.2.platform.tried = l.platform.tried ++ l.setupAttempts.map SetupAttempt.frame ∧
    (∃ names appearances, 1 ≤ names ∧ 1 ≤ appearances ∧
      (l.setupAttempts.map (·.step) <+: setupOrder names appearances) ∧
      ((l.setupAttempts.map fun a => Frame.opcode a.frame) <+:
        (setupCommands names appearances).map Command.opcode) ∧
      (l.setup.1 = .ok () → l.setupAttempts.map (·.step) = setupOrder names appearances)) ∧
    (l.setup.1 = .ok () ↔ ∀ a ∈ l.setupAttempts, a.step.updates = false → a.Completed) ∧
    (∀ error, l.setup.1 = .error error → ∃ earlier last, l.setupAttempts = earlier ++ [last] ∧
      last.step.updates = false ∧ last.outcome = .error error ∧
      ∀ a ∈ earlier, a.step.updates = false → a.Completed) ∧
    (∀ earlier a later, l.setupAttempts = earlier ++ a :: later →
      Knows l.core.handles earlier a.link.core.handles) ∧
    Knows l.core.handles l.setupAttempts l.setup.2.core.handles := by
  have proceeds := l.setup_proceeds
  have address : l.address = Identity.legacyAddress (Identity.uid serial) :=
    (address_lasting _).reachable reachable fun _ => rfl
  have short : l.address.length ≤ 253 := by
    rw [address]
    exact Nat.le_of_ble_eq_true rfl
  have apart : Apart setupSteps := by
    unfold Apart
    decide
  obtain ⟨informed, knows⟩ := proceeds.informed apart l.setup_standing
  obtain ⟨names, appearances, named, appeared, order, whole⟩ := l.setup_ordered
  refine ⟨proceeds.tried reachable.rests short, ⟨names, appearances, named, appeared, order, ?_,
    whole⟩, proceeds.ends.ok_iff, fun error failed => ?_, informed, knows⟩
  · have opcodes : (l.setupAttempts.map fun a => Frame.opcode a.frame) =
        ((l.setupAttempts.map (·.step)).map SetupStep.command).map Command.opcode := by
      rw [List.map_map, List.map_map]
      exact List.map_congr_left fun a _ => a.request.opcode_frame
    rw [opcodes, ← setupOrder_commands]
    exact (order.map _).map _
  · have ends := proceeds.ends
    rw [failed] at ends
    generalize l.setupAttempts = attempts at ends
    cases ends with
    | error single failed completed => exact ⟨_, _, rfl, single, failed, completed⟩

/-- The device name is refused once, as no buffer is free, and then the last command fails. -/
theorem Reachable.setup_in_order_denied :
    let freed := PlatformEvent.hci [0x04, 0xFF, 0x02, 0x16, 0x0C]
    let full := PlatformEvent.hci [0x04, 0x0E, 0x04, 0x01, 0x06, 0xFD, 0x64]
    let denied := PlatformEvent.hci [0x04, 0x0E, 0x04, 0x01, 0x83, 0xFC, 0x0C]
    let l := Link.create .standard [1, 2, 3, 4] {
      rules := [⟨Command.updateCharValue.opcode, [freed, full]⟩,
        ⟨Command.setDiscoverable.opcode, [denied]⟩] }
    Reachable .standard [1, 2, 3, 4] l ∧ l.setup.1 = .error (.controller 0x0C) ∧
    l.setupAttempts.map (·.step) = setupOrder 2 1 ∧ l.core.handles = {} ∧
    l.setup.2.core.handles = ⟨0x10, 0x20, 0x30, 0x40, 0x50, 0x60⟩ ∧
    l.setup.2.platform.tried = l.platform.tried ++ l.setupAttempts.map SetupAttempt.frame ∧
    (∃ names appearances, 1 ≤ names ∧ 1 ≤ appearances ∧
      (l.setupAttempts.map (·.step) <+: setupOrder names appearances) ∧
      ((l.setupAttempts.map fun a => Frame.opcode a.frame) <+:
        (setupCommands names appearances).map Command.opcode) ∧
      (l.setup.1 = .ok () → l.setupAttempts.map (·.step) = setupOrder names appearances)) ∧
    (l.setup.1 = .ok () ↔ ∀ a ∈ l.setupAttempts, a.step.updates = false → a.Completed) ∧
    (∀ error, l.setup.1 = .error error → ∃ earlier last, l.setupAttempts = earlier ++ [last] ∧
      last.step.updates = false ∧ last.outcome = .error error ∧
      ∀ a ∈ earlier, a.step.updates = false → a.Completed) ∧
    (∀ earlier a later, l.setupAttempts = earlier ++ a :: later →
      Knows l.core.handles earlier a.link.core.handles) ∧
    Knows l.core.handles l.setupAttempts l.setup.2.core.handles := by
  intro freed full denied l
  have reachable : Reachable .standard [1, 2, 3, 4] l := .create _
  exact ⟨reachable, by decide +kernel, by decide +kernel, rfl, by decide +kernel,
    reachable.setup_in_order⟩

end Link

end CardLink.Legacy
