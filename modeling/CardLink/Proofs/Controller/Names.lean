import CardLink.Proofs.Advertising
import CardLink.Proofs.Controller.Announcing
import CardLink.Proofs.Controller.Naming

namespace CardLink

namespace Frame

def params (frame : List UInt8) : List UInt8 := frame.drop 4

/-- The name in the data that a frame has advertised, behind the length of that data. -/
def advertisedName? (frame : List UInt8) : Option (List UInt8) :=
  match params frame with
  | length :: data =>
    if length.toNat = data.length then
      (Advertising.structures? data).bind (List.lookup Advertising.typeLocalName)
    else none
  | [] => none

/-- The name in a frame that makes the device discoverable. In front of it stand seven bytes, the
length of a structure and its type. -/
def discoverableName? (frame : List UInt8) : Option (List UInt8) :=
  match (params frame).drop 7 with
  | length :: type :: rest =>
    if type = Advertising.typeLocalName ∧ 1 ≤ length.toNat ∧ length.toNat - 1 ≤ rest.length then
      some (rest.take (length.toNat - 1))
    else none
  | _ => none

/-- If the frame advertises anything, or makes the device discoverable, it does so by this name. -/
structure Shows (name frame : List UInt8) : Prop where
  advertised : Frame.opcode frame = Command.updateAdvData.opcode → advertisedName? frame = some name
  discoverable : Frame.opcode frame = Command.setDiscoverable.opcode →
    discoverableName? frame = some name

theorem params_build {opcode : UInt16} {given frame : List UInt8}
    (built : Frame.build opcode given = .ok frame) : params frame = given := by
  unfold Frame.build at built
  split at built <;> cases built
  rfl

/-- The other commands have no name to show in advertising. -/
theorem shows_build {command : Command} {given frame : List UInt8}
    (built : Frame.build command.opcode given = .ok frame) (other : command ≠ .updateAdvData)
    (apart : command ≠ .setDiscoverable) (name : List UInt8) : Shows name frame := by
  constructor
  all_goals
    rw [Controller.Core.opcode_build built]
    cases command <;> first | contradiction | exact fun same => absurd same (by decide)

end Frame

namespace Controller

/-- The name that was given last. -/
def lastName (first : String) (past : List (Core × Input)) : String :=
  past.foldl (fun name e => match e.2 with
    | .setDeviceName given => given
    | _ => name) first

namespace Core

variable {c d after : Core} {input : Input} {P : List UInt8 → Prop}

/-- What has been queued since, behind what is left of the outbox, has the property. -/
def Adds (P : List UInt8 → Prop) (c after : Core) : Prop :=
  ∃ news, after.outbox <:+ c.outbox ++ news ∧ ∀ frame ∈ news, P frame

theorem adds_of_same (outbox : after.outbox = c.outbox) : Adds P c after :=
  ⟨[], ⟨[], outbox.trans (List.append_nil _).symm⟩, nofun⟩

theorem Adds.trans (first : Adds P c d) (second : Adds P d after) : Adds P c after := by
  obtain ⟨news, queued, proper⟩ := first
  obtain ⟨more, later, further⟩ := second
  refine ⟨news ++ more, ?_, List.forall_mem_append.mpr ⟨proper, further⟩⟩
  rw [← List.append_assoc]
  exact later.trans (List.suffix_append_self_iff.mpr queued)

/-- A state may differ in anything but the outbox. -/
theorem Adds.from (adds : Adds P d after) (outbox : d.outbox = c.outbox) :
    Adds P c after :=
  (adds_of_same outbox).trans adds

theorem send_adds {command : Command} {params : List UInt8}
    (proper : ∀ frame, Frame.build command.opcode params = .ok frame → P frame) :
    Adds P c (c.send command params) := by
  unfold send
  split
  · exact adds_of_same rfl
  · rename_i frame built
    split
    · exact ⟨[frame], List.suffix_rfl, List.forall_mem_singleton.mpr (proper frame built)⟩
    · exact adds_of_same rfl

theorem Adds.enqueued (adds : Adds P c (c.step input)) (continues : ¬c.Restarts input) :
    ∀ frame ∈ c.enqueued input, P frame := by
  obtain ⟨news, ⟨taken, split⟩, proper⟩ := adds
  intro frame member
  have going : c.effect input ≠ .restarted := fun restarted =>
    continues (effect_restarted_iff.mp restarted)
  rw [Core.enqueued, if_neg going] at member
  have added : (taken ++ (c.step input).outbox).drop (taken.length + c.outbox.length) =
      (c.outbox ++ news).drop (c.outbox.length + taken.length) := by
    rw [split, Nat.add_comm]
  rw [List.drop_length_add_append, List.drop_length_add_append] at added
  rw [added] at member
  exact proper frame (List.mem_of_mem_drop member)

theorem Unmoved.adds (unmoved : c.Unmoved after) (name : List UInt8) :
    Adds (Frame.Shows name) c after := by
  obtain ⟨news, queued, aside⟩ := unmoved.queued
  refine ⟨news, queued, fun frame member => ?_⟩
  obtain ⟨command, params, built, other⟩ := aside frame member
  refine Frame.shows_build built ?_ ?_ name
  all_goals
    rintro rfl
    rcases other with other | ⟨other, -⟩
    · exact other (by decide)
    · cases other

/-- A name within its capacity is advertised as a whole. -/
theorem advData_shows (sized : c.name.length ≤ Advertising.nameCapacity) {frame : List UInt8}
    (built : Frame.build Command.updateAdvData.opcode c.advDataParams = .ok frame) :
    Frame.Shows c.name frame := by
  refine ⟨fun _ => ?_, fun apart => ?_⟩
  · have length := Advertising.payload_length c.name
    have counted : (UInt8.ofNat (Advertising.payload c.name).length).toNat =
        (Advertising.payload c.name).length := by
      rw [UInt8.toNat_ofNat']
      unfold Advertising.capacity at length
      omega
    have whole : c.name.take 26 = c.name := by
      refine List.take_of_length_le (Nat.le_trans sized ?_)
      decide
    rw [Frame.advertisedName?, Frame.params_build built, advDataParams]
    simp only [counted, if_true, Advertising.structures?_payload, whole, Option.bind_some]
    rfl
  · rw [opcode_build built] at apart
    exact absurd apart (by decide)

/-- The same when the device is made discoverable. -/
theorem discoverable_shows (sized : c.name.length ≤ Advertising.nameCapacity) {frame : List UInt8}
    (built : Frame.build Command.setDiscoverable.opcode c.discoverableParams = .ok frame) :
    Frame.Shows c.name frame := by
  refine ⟨fun apart => ?_, fun _ => ?_⟩
  · rw [opcode_build built] at apart
    exact absurd apart (by decide)
  · have whole : c.name.take (Advertising.capacity - 1) = c.name := by
      refine List.take_of_length_le (Nat.le_trans sized ?_)
      decide
    have counted : (UInt8.ofNat (c.name.length + 1)).toNat = c.name.length + 1 := by
      rw [UInt8.toNat_ofNat']
      unfold Advertising.nameCapacity at sized
      omega
    have fields : c.discoverableParams.drop 7 = UInt8.ofNat (c.name.length + 1) ::
        Advertising.typeLocalName :: (c.name ++ [0x00, 0x00, 0x00, 0x00, 0x00]) := by
      simp only [discoverableParams, Advertising.localName, whole]
      rfl
    have inside : c.name.length ≤ (c.name ++ [0x00, 0x00, 0x00, 0x00, 0x00]).length := by
      rw [List.length_append]
      omega
    rw [Frame.discoverableName?, Frame.params_build built, fields]
    simp only [counted, Nat.add_sub_cancel, Nat.le_add_left, inside, and_self, if_true,
      List.take_left]

section

variable {name : List UInt8} (sized : name.length ≤ Advertising.nameCapacity)
include sized

theorem Sequenced.adds {c : Core} (sequenced : c.Sequenced after) (named : c.name = name) :
    Adds (Frame.Shows name) c after := by
  subst named
  obtain ⟨f, command?, params, rfl, carries⟩ := sequenced
  cases command? with
  | none => exact adds_of_same rfl
  | some command =>
    have carried := carries command rfl
    refine .from (send_adds (c := c.placed f) fun frame built => ?_) rfl
    by_cases data : command = .updateAdvData
    · subst data
      exact advData_shows sized (carried.data rfl ▸ built)
    by_cases discoverable : command = .setDiscoverable
    · subst discoverable
      exact discoverable_shows sized (carried.discoverable rfl ▸ built)
    exact Frame.shows_build built data discoverable c.name

theorem onAdvertisingSwitched_adds {c : Core} (named : c.name = name)
    (kept : ¬(c.advRequest = some false ∧ c.connection.isConnected = true)) :
    Adds (Frame.Shows name) c c.onAdvertisingSwitched := by
  simp only [onAdvertisingSwitched, beq_iff_eq]
  split
  · rename_i client
    split
    · rename_i disabling
      exact absurd ⟨disabling, client⟩ kept
    · exact adds_of_same rfl
  · split
    · split
      · exact .from ((startAdvertising_sequenced
          { c with advRequest := none, advertising := false }).adds sized named) rfl
      · exact adds_of_same rfl
    · exact adds_of_same rfl

theorem onCommandComplete_adds {c : Core} (named : c.name = name) {packet : EventPacket}
    (kept : ¬c.DropsConnection packet) :
    Adds (Frame.Shows name) c (c.onCommandComplete packet) := by
  unfold onCommandComplete
  cases answered : packet.opcode with
  | none => exact adds_of_same rfl
  | some opcode =>
    dsimp only
    cases phase : c.phase with
    | initializing =>
      dsimp only
      split
      · exact (c.stepInit_sequenced _).adds sized named
      · exact adds_of_same rfl
    | configuringAdvertising =>
      dsimp only
      split
      · exact c.stepAdvertising_sequenced.adds sized named
      · exact adds_of_same rfl
    | failed => exact adds_of_same rfl
    | idle | ready =>
      dsimp only
      split
      · exact c.onWriteAck_unmoved.adds name
      split
      · exact c.onNotifyComplete_unmoved.adds name
      split
      · rename_i switched
        refine onAdvertisingSwitched_adds sized named fun dropped => kept ⟨?_, ?_, dropped⟩
        · simp only [phase, true_or, or_true]
        · simpa only [answered, Option.some.injEq] using switched
      · exact adds_of_same rfl

theorem onPacket_adds {c : Core} (named : c.name = name) {packet : EventPacket}
    (continues : ¬c.Restarts (.packet packet)) :
    Adds (Frame.Shows name) c (c.onPacket packet) := by
  simp only [Restarts] at continues
  simp only [onPacket]
  cases kind : packet.kind with
  | commandComplete =>
    rw [kind] at continues
    exact onCommandComplete_adds sized named continues
  | commandStatus => exact adds_of_same rfl
  | leMeta => exact (c.onLeMeta_unmoved _).adds name
  | hardwareError =>
    rw [kind] at continues
    exact absurd trivial continues
  | asynchronous =>
    rw [kind, not_or] at continues
    dsimp only
    split
    · rename_i code
      have reason : packet.params[3]?.getD 0 ≠ reasonInstantPassed :=
        fun passed => continues.1 ⟨code, passed⟩
      simp only [onDisconnect, if_neg reason]
      exact .from ((startAdvertising_sequenced _).adds sized named) rfl
    · split
      · unfold onEncryptionChange
        split <;> exact adds_of_same rfl
      · split
        · rename_i code
          exact (c.onVendor_unmoved fun late => continues.2 ⟨code, late⟩).adds name
        · exact adds_of_same rfl

/-- Whatever is queued shows the name that the device has then. -/
theorem step_adds {c : Core} (named : c.name = name) (continues : ¬c.Restarts input) :
    Adds (Frame.Shows name) c (c.step input) := by
  cases input with
  | packet packet => exact onPacket_adds sized named continues
  | beginInit => exact absurd trivial continues
  | tick =>
    simp only [step, onTick]
    split <;> exact adds_of_same rfl
  | nextCommand =>
    simp only [step, nextCommand]
    split
    · exact adds_of_same rfl
    · rename_i frame rest queued
      refine ⟨[], ?_, List.forall_mem_nil _⟩
      rw [queued, List.append_nil]
      exact List.suffix_cons frame rest
  | commandDropped =>
    simp only [step, commandDropped]
    split
    · exact ⟨[], List.nil_suffix, List.forall_mem_nil _⟩
    · exact ⟨[], List.nil_suffix, List.forall_mem_nil _⟩
    all_goals exact adds_of_same rfl
  | poll | setDeviceName | setPlaneMode | nextPairingMessage => exact adds_of_same rfl
  | sendMessage data => exact (c.sendMessage_unmoved data).adds name
  | respond answer => exact (c.respond_unmoved answer).adds name
  | enableAdvertising on =>
    simp only [step, enableAdvertising]
    split
    · split
      · exact adds_of_same rfl
      · subst named
        unfold switchAdvertising
        split
        · exact .from (send_adds fun _ built =>
            discoverable_shows (c := { c with advRequest := some on }) sized built) rfl
        · exact .from (send_adds fun _ built =>
            Frame.shows_build built (by decide) (by decide) _) rfl
    · exact adds_of_same rfl
  | resetPairings =>
    simp only [step, resetPairings]
    split
    · rename_i ready
      split
      · rename_i client
        exact absurd ⟨ready, client⟩ continues
      · exact send_adds fun _ built => Frame.shows_build built (by decide) (by decide) _
    · exact adds_of_same rfl

end

/-- After a restart nothing is in the outbox but the first command of the initialisation. -/
theorem beginInit_outbox (c : Core) : c.beginInit.outbox = [(Post.mk .reset [] []).frame] := rfl

theorem enqueued_shows {c : Core} (sized : c.name.length ≤ Advertising.nameCapacity)
    (input : Input) : ∀ frame ∈ c.enqueued input, Frame.Shows c.name frame := by
  by_cases restarts : c.Restarts input
  · obtain ⟨d, begun, -⟩ := step_of_restarts restarts
    rw [enqueued, if_pos (effect_restarted_iff.mpr restarts), begun, beginInit_outbox,
      List.drop_zero, List.forall_mem_singleton]
    have built : Frame.build Command.reset.opcode [] = .ok (Post.mk .reset [] []).frame := rfl
    exact Frame.shows_build built (by decide) (by decide) c.name
  · exact (step_adds sized rfl restarts).enqueued restarts

end Core

variable {settings : Settings} {random : RandomSource} {first : String} {address : List UInt8}
  {planeMode : Bool} {past later : List (Core × Input)} {c after : Core}

theorem lastName_append (first : String) (past later : List (Core × Input)) :
    lastName first (past ++ later) = lastName (lastName first past) later :=
  List.foldl_append

theorem lastName_unnamed (first : String) {past : List (Core × Input)}
    (unnamed : ∀ e ∈ past, ∀ name, e.2 ≠ .setDeviceName name) : lastName first past = first := by
  induction past with
  | nil => rfl
  | cons e past ih =>
    obtain ⟨earlier, later⟩ := List.forall_mem_cons.mp unnamed
    have kept : lastName first (e :: past) = lastName first past := by
      obtain ⟨c, input⟩ := e
      cases input with
      | setDeviceName name => exact absurd rfl (earlier name)
      | _ => rfl
    exact kept.trans (ih later)

/-- A device is called by what is kept of the name given last. -/
theorem Run.name_eq (run : Run (.create settings random first address planeMode) past c) :
    c.name = Advertising.clipName (lastName first past) := by
  induction run with
  | start => rfl
  | @next past c run input ih =>
    have name : (c.step input).name = c.nameAfter input :=
      congrArg Profile.name (c.step_profile input)
    rw [name, lastName_append]
    cases input with
    | setDeviceName name => rfl
    | _ => exact ih

theorem Run.named (run : Run (.create settings random first address planeMode) past c)
    (next : Run c later after) (unnamed : ∀ e ∈ later, ∀ name, e.2 ≠ .setDeviceName name) :
    ∀ e ∈ later, e.1.name = Advertising.clipName (lastName first past) := by
  intro e member
  obtain ⟨before, behind, rfl⟩ := List.append_of_mem member
  rw [(run.append next.before).name_eq, lastName_append, lastName_unnamed]
  exact fun other early => unnamed other (List.mem_append_left _ early)

/-- Whatever is queued while a setup goes on shows the name with which it began. -/
theorem announced_shows (sized : c.name.length ≤ Advertising.nameCapacity) (begun : Input)
    (named : ∀ e ∈ later, e.1.name = c.name) :
    ∀ frame ∈ announced c begun later, Frame.Shows c.name frame := by
  intro frame member
  rcases List.mem_append.mp member with first | further
  · exact Core.enqueued_shows sized begun frame first
  · obtain ⟨e, entry, queued⟩ := List.mem_flatMap.mp further
    have shown := Core.enqueued_shows ((named e entry).symm ▸ sized) e.2 frame queued
    exact named e entry ▸ shown

/-- From when a name is given until the next one is, all that the link has the controller advertise,
write as the device name and use for making the device discoverable is one and the same: the longest
part of that name, in whole characters, that has room in twenty bytes. The next full setup of
advertising queues all of that: the data, the device name, and the command that makes the device
discoverable if it is not to be hidden. No payload shortens the name: one has room for 26 bytes of
any name, behind the flags, and consists of nothing else. -/
theorem Run.shows_one_name :
    (∀ {settings : Settings} {random : RandomSource} {first : String} {address : List UInt8}
        {planeMode : Bool} {past later : List (Core × Input)} {c after : Core},
      Run (.create settings random first address planeMode) past c → Run c later after →
      (∀ e ∈ later, ∀ name, e.2 ≠ .setDeviceName name) →
      ∃ kept, Advertising.Kept Advertising.nameCapacity (lastName first past).toList kept ∧
        ∀ e ∈ later,
          (∀ frame ∈ e.1.enqueued e.2, Frame.Shows (Advertising.bytesOf kept) frame) ∧
          (Core.Sequences (e.1.effect e.2) →
            ∀ value ∈ e.1.queuedBy e.2, value = Advertising.bytesOf kept)) ∧
    (∀ {settings : Settings} {random : RandomSource} {first : String} {address : List UInt8}
        {planeMode : Bool} {past later : List (Core × Input)} {c after : Core} {begun : Input},
      Run (.create settings random first address planeMode) past c → c.SetsUp begun →
      c.outbox.length < outboxCapacity → Run (c.step begun) later after →
      (∀ e ∈ later, Undisturbed e) →
      unacknowledged [.updateAdvData, .setScanResponse, .updateCharValue]
        (later.map Prod.snd) = [] →
      ∃ kept wanted,
        Advertising.Kept Advertising.nameCapacity (lastName first past).toList kept ∧
        (Unswitched later → wanted = !c.planeMode) ∧
        ((c.setupPosts wanted).map Post.frame).Sublist (announced c begun later) ∧
        (∀ frame ∈ announced c begun later, Frame.Shows (Advertising.bytesOf kept) frame) ∧
        c.namePost.params = Core.updateParams c.handles.gapService c.handles.gapDeviceName
          (Advertising.bytesOf kept)) ∧
    ∀ name, (Advertising.payload name).length ≤ 31 ∧
      Advertising.structures? (Advertising.payload name) =
        some [(Advertising.typeFlags, [Advertising.flags]),
          (Advertising.typeLocalName, name.take 26)] := by
  refine ⟨fun {settings random first address planeMode past later c after} run next unnamed => ?_,
    fun {settings random first address planeMode past later c after begun} run sets room next
      undisturbed completed => ?_,
    fun name => ⟨Advertising.payload_length name, Advertising.structures?_payload name⟩⟩
  · obtain ⟨kept, longest, clipped⟩ := Advertising.clipName_kept (lastName first past)
    refine ⟨kept, longest, fun e member => ?_⟩
    have named : e.1.name = Advertising.bytesOf kept :=
      (run.named next unnamed e member).trans clipped
    rw [← named]
    exact ⟨Core.enqueued_shows (named ▸ longest.fits) e.2, Core.queuedBy_names⟩
  · obtain ⟨kept, longest, clipped⟩ := Advertising.clipName_kept (lastName first past)
    have named : c.name = Advertising.bytesOf kept := run.name_eq.trans clipped
    have sized : c.name.length ≤ Advertising.nameCapacity := named ▸ longest.fits
    have unnamed : ∀ e ∈ (c, begun) :: later, ∀ name, e.2 ≠ .setDeviceName name :=
      List.forall_mem_cons.mpr ⟨sets.unnamed, fun e member => (undisturbed e member).unnamed⟩
    have kind := run.named (next.cons begun) unnamed
    have shown := announced_shows sized begun fun e member =>
      (kind e (List.mem_cons_of_mem _ member)).trans run.name_eq.symm
    have setup := Run.setup sets sized room next undisturbed
    rw [completed] at setup
    cases setup with
    | done wanted wants queued =>
      exact ⟨kept, wanted, longest, wants, queued, named ▸ shown, named ▸ rfl⟩

/-- A device gets a new name before it is first brought up, and another one gets it while a client is
connected that is lost then. The name has 19 characters of one byte, then one of two bytes and
another of one. -/
theorem Run.shows_one_name_cut :
    let name := "Handelsgesellschaftüe"
    (let initial := Core.create .standard (.stepping 0 1) "card" [1, 2, 3, 4, 5, 6] false
    let c := initial.step (.setDeviceName name)
    let later := c.history (Input.session.take 30)
    let frames := later.flatMap fun e => e.1.enqueued e.2
    (frames.map Frame.opcode).drop 11 = [Command.updateAdvData, .setScanResponse, .updateCharValue,
      .setDiscoverable].map Command.opcode ∧
    ∃ kept, Advertising.Kept 20 name.toList kept ∧
      (∀ frame ∈ frames, Frame.Shows (Advertising.bytesOf kept) frame) ∧
      ∀ e ∈ later, Core.Sequences (e.1.effect e.2) →
        ∀ value ∈ e.1.queuedBy e.2, value = Advertising.bytesOf kept) ∧
    let initial := Core.create .standard (.stepping 0 1) "card" [1, 2, 3, 4, 5, 6] true
    let connected := (Input.session ++ [Input.setPlaneMode false]).foldl Core.step initial
    let c := connected.step (.setDeviceName name)
    let begun := Input.event EventCode.disconnectionComplete [0x00, 0x01, 0x08, 0x13]
    let setup := [Command.updateAdvData, .setScanResponse, .updateCharValue, .setDiscoverable]
    let later := (c.step begun).history (setup.map Input.completed)
    (c.connection.isConnected = true ∧ c.SetsUp begun ∧ ∀ e ∈ later, Undisturbed e) ∧
    (announced c begun later).map Frame.opcode = setup.map Command.opcode ∧
    ∃ kept, Advertising.Kept 20 name.toList kept ∧
      ((c.setupPosts true).map Post.frame).Sublist (announced c begun later) ∧
      (∀ frame ∈ announced c begun later, Frame.Shows (Advertising.bytesOf kept) frame) ∧
      c.namePost.params = Core.updateParams 0x10 0x20 (Advertising.bytesOf kept) := by
  refine ⟨?_, ?_⟩
  · intro initial c later frames
    have run : Run initial [(initial, .setDeviceName _)] c := Run.start.next _
    have next : Run c later _ := Run.start.history (Input.session.take 30)
    have inputs : later.map Prod.snd = Input.session.take 30 := c.history_inputs _
    have unnamed : ∀ e ∈ later, ∀ name, e.2 ≠ .setDeviceName name := by
      intro e member name renamed
      have given : e.2 ∈ Input.session.take 30 := inputs ▸ List.mem_map_of_mem member
      rw [renamed] at given
      exact absurd given (by simp [Input.session, Input.completed, Input.granted, Input.event])
    obtain ⟨kept, longest, shown⟩ := Run.shows_one_name.1 run next unnamed
    refine ⟨by decide +kernel, kept, longest, fun frame member => ?_,
      fun e member => (shown e member).2⟩
    obtain ⟨e, entry, queued⟩ := List.mem_flatMap.mp member
    exact (shown e entry).1 frame queued
  · intro initial connected c begun setup later
    obtain ⟨past, earlier⟩ := Run.script initial (Input.session ++ [Input.setPlaneMode false])
    have run := earlier.next (.setDeviceName "Handelsgesellschaftüe")
    have next : Run (c.step begun) later _ := Run.start.history (setup.map Input.completed)
    have inputs : later.map Prod.snd = setup.map Input.completed := Core.history_inputs _ _
    have sets : c.SetsUp begun := .lost ⟨rfl, by decide⟩ rfl
    have completes : ∀ e ∈ later, ∃ command, e.2 = Input.completed command := by
      intro e member
      have given : e.2 ∈ setup.map Input.completed := inputs ▸ List.mem_map_of_mem member
      obtain ⟨command, -, same⟩ := List.mem_map.mp given
      exact ⟨command, same.symm⟩
    have running : ∀ e ∈ later, ¬(e.1.phase = .idle ∨ e.1.phase = .ready) ∧
        e.1.outbox.length < outboxCapacity := by decide +kernel
    have undisturbed : ∀ e ∈ later, Undisturbed e := by
      rintro ⟨d, input⟩ member
      obtain ⟨command, rfl⟩ := completes _ member
      exact .completed (running _ member).1 (running _ member).2
    have unswitched : Unswitched later := by
      intro e member on switched
      obtain ⟨command, same⟩ := completes e member
      cases same.symm.trans switched
    obtain ⟨kept, wanted, longest, wants, queued, shown, written⟩ :=
      Run.shows_one_name.2.1 run sets (by decide +kernel) next undisturbed
        (by rw [inputs]; decide +kernel)
    have advertises : wanted = true := (wants unswitched).trans (by decide +kernel)
    rw [lastName_append] at longest
    have handles : c.handles.gapService = 0x10 ∧ c.handles.gapDeviceName = 0x20 := by
      decide +kernel
    rw [handles.1, handles.2] at written
    exact ⟨⟨by decide +kernel, sets, undisturbed⟩, by decide +kernel, kept, longest,
      advertises ▸ queued, shown, written⟩

end Controller

end CardLink
