import CardLink.Proofs.Controller.FlowControl
import CardLink.Proofs.Controller.Initialization

namespace CardLink.Controller

/-- The command that a request for advertising queues. -/
def switchCommand (on : Bool) : Command := if on then .setDiscoverable else .setNonDiscoverable

namespace Input

def advertises? : Input → Option Bool
  | .enableAdvertising on => some on
  | _ => none

/-- Advertising has been switched. -/
def Switches (input : Input) : Prop := ∃ on, input.completes? = some (switchCommand on).opcode

instance : DecidablePred Switches := fun input =>
  inferInstanceAs (Decidable (∃ on, input.completes? = some (switchCommand on).opcode))

end Input

/-- The requests for advertising, the oldest first. -/
def requests (past : List (Core × Input)) : List Bool := past.filterMap (·.2.advertises?)

/-- How many of them have been answered. -/
def answers (past : List (Core × Input)) : Nat := past.countP (·.2.Switches)

/-- What the advertising flag depends on. -/
structure Beacon where
  phase : Phase
  ready : Bool
  nameChanged : Bool
  advRequest : Option Bool
  advertising : Bool
  deriving DecidableEq, Repr

namespace Core

def beacon (c : Core) : Beacon where
  phase := c.phase
  ready := c.ready
  nameChanged := c.nameChanged
  advRequest := c.advRequest
  advertising := c.advertising

/-- The link is up without a client, and its payloads carry its name. -/
structure Unattended (c : Core) : Prop where
  up : c.phase = .ready
  ready : c.ready = true
  named : c.nameChanged = false
  alone : c.connection.isConnected = false

/-- An input that has nothing to do with advertising, and after which there is still no client: no
request and no completion of one, no new name, no connection and no new start. -/
structure Aside (c : Core) (input : Input) : Prop where
  unrequested : input.advertises? = none
  unswitched : ¬input.Switches
  unnamed : ∀ name, input ≠ .setDeviceName name
  continues : ¬(c.effect input).Severs
  alone : (c.step input).connection.isConnected = false

variable {c : Core} {input : Input}

theorem beacon_congr {after : Core} (same : after.surroundings = c.surroundings) :
    after.beacon = c.beacon :=
  (congrArg beacon same :)

theorem onLeMeta_beacon {params : List UInt8} (continues : ¬(leEffect params).Severs) :
    (c.onLeMeta params).beacon = c.beacon := by
  unfold leEffect at continues
  unfold onLeMeta
  match event : params.head?.bind LeEvent.ofCode? with
  | some .connectionComplete | some .enhancedConnectionComplete =>
    rw [event] at continues
    dsimp only at continues ⊢
    split
    · rename_i accepted
      rw [if_pos accepted] at continues
      exact absurd (.inr (.inl rfl)) continues
    · rfl
  | some .dataLengthChange =>
    dsimp only
    unfold onDataLength
    split <;> rfl
  | some .phyUpdateComplete =>
    dsimp only
    unfold onPhyUpdate
    split <;> rfl
  | some .connectionUpdateComplete | none => rfl

theorem onVendor_beacon {packet : EventPacket} (continues : ¬(c.vendorEffect packet).Severs) :
    (c.onVendor packet).beacon = c.beacon := by
  simp only [vendorEffect] at continues
  simp only [onVendor]
  split
  · rfl
  · rename_i own
    simp only [own, if_false] at continues
    cases given : packet.vendorCode.bind VendorEvent.ofCode? with
    | none => rfl
    | some event =>
      rw [given] at continues
      cases event with
      | attributeModified => exact beacon_congr (c.onAttributeModified_surroundings _)
      | writePermitRequest => exact beacon_congr (c.onWritePermit_surroundings _)
      | indication => exact beacon_congr (c.send_surroundings _ _)
      | procedureTimeout => exact absurd (.inl rfl) continues
      | exchangeMtuResponse | pairingComplete | passKeyRequest | numericComparison
      | connectionUpdateResponse | txPoolAvailable => rfl

theorem onCommandComplete_beacon {packet : EventPacket} (up : c.phase = .ready)
    (unswitched : ∀ on, packet.opcode ≠ some (switchCommand on).opcode) :
    (c.onCommandComplete packet).beacon = c.beacon := by
  unfold onCommandComplete
  match opcode : packet.opcode with
  | none => rfl
  | some code =>
    rw [opcode] at unswitched
    have other : ¬(code = Command.setNonDiscoverable.opcode ∨
        code = Command.setDiscoverable.opcode) := by
      rintro (rfl | rfl)
      · exact unswitched false rfl
      · exact unswitched true rfl
    simp only [up, other, if_false]
    split
    · exact beacon_congr c.onWriteAck_surroundings
    · split
      · obtain ⟨_, same⟩ := c.onNotifyComplete_surroundings
        exact (beacon_congr same).trans rfl
      · rfl

theorem onPacket_beacon {packet : EventPacket} (up : c.phase = .ready)
    (unswitched : ¬(Input.packet packet).Switches)
    (continues : ¬(c.effect (.packet packet)).Severs) :
    (c.onPacket packet).beacon = c.beacon := by
  simp only [effect, packetEffect] at continues
  simp only [onPacket]
  cases kind : packet.kind with
  | commandComplete =>
    exact onCommandComplete_beacon up fun on switched =>
      unswitched ⟨on, (if_pos kind).trans switched⟩
  | commandStatus => rfl
  | leMeta =>
    rw [kind] at continues
    exact onLeMeta_beacon continues
  | hardwareError =>
    rw [kind] at continues
    exact absurd (.inl rfl) continues
  | asynchronous =>
    rw [kind] at continues
    dsimp only at continues ⊢
    split
    · rename_i lost
      rw [if_pos lost] at continues
      refine absurd ?_ continues
      split
      · exact .inl rfl
      · exact .inr (.inr rfl)
    · rename_i kept
      rw [if_neg kept] at continues
      split
      · unfold onEncryptionChange
        split <;> rfl
      · rename_i other
        rw [if_neg other] at continues
        split
        · rename_i vendor
          rw [if_pos vendor] at continues
          exact onVendor_beacon continues
        · rfl

/-- Nothing else moves the flag. -/
theorem Aside.beacon (aside : c.Aside input) (up : c.phase = .ready) :
    (c.step input).beacon = c.beacon := by
  cases input with
  | beginInit => exact absurd (.inl rfl) aside.continues
  | packet packet => exact onPacket_beacon up aside.unswitched aside.continues
  | tick => exact beacon_congr c.onTick_surroundings
  | nextCommand => exact beacon_congr c.nextCommand_surroundings
  | commandDropped => simp only [step, commandDropped, up]
  | poll | setPlaneMode | nextPairingMessage => rfl
  | sendMessage data => exact beacon_congr (c.sendMessage_surroundings data)
  | enableAdvertising on => cases aside.unrequested
  | setDeviceName name => exact absurd rfl (aside.unnamed name)
  | resetPairings =>
    have continues := aside.continues
    simp only [effect] at continues
    simp only [step, resetPairings]
    split
    · rename_i ready
      split
      · rename_i client
        rw [if_pos ⟨ready, client⟩] at continues
        exact absurd (.inl rfl) continues
      · exact beacon_congr (c.send_surroundings _ _)
    · rfl
  | respond answer =>
    simp only [step, respond]
    split
    · exact (beacon_congr (send_surroundings _ _ _)).trans rfl
    · exact (beacon_congr (send_surroundings _ _ _)).trans rfl
    · rfl

theorem Unattended.aside (unattended : c.Unattended) (aside : c.Aside input) :
    (c.step input).Unattended := by
  have same := aside.beacon unattended.up
  exact ⟨(congrArg Beacon.phase same).trans unattended.up,
    (congrArg Beacon.ready same).trans unattended.ready,
    (congrArg Beacon.nameChanged same).trans unattended.named, aside.alone⟩

theorem Unattended.requested (unattended : c.Unattended) (on : Bool) :
    (c.step (.enableAdvertising on)).beacon = { c.beacon with advRequest := some on } ∧
      (c.step (.enableAdvertising on)).Unattended := by
  have queued : c.step (.enableAdvertising on) =
      { c with advRequest := some on }.switchAdvertising on := by
    simp only [step, enableAdvertising, unattended.ready, unattended.named, Bool.false_eq_true,
      false_and, if_true, if_false]
  have around := switchAdvertising_surroundings { c with advRequest := some on } on
  have same := beacon_congr around
  have connection := congrArg connection around
  rw [queued]
  refine ⟨same, (congrArg Beacon.phase same).trans unattended.up,
    (congrArg Beacon.ready same).trans unattended.ready,
    (congrArg Beacon.nameChanged same).trans unattended.named, ?_⟩
  exact (congrArg Connection.isConnected connection).trans unattended.alone

/-- Advertising is off after a completion just when the last request was to switch it off and had
not been answered. -/
theorem Unattended.answered (unattended : c.Unattended) (switches : input.Switches) :
    c.step input =
      { c with advRequest := none, advertising := c.advRequest != some false } := by
  obtain ⟨on, completes⟩ := switches
  match input with
  | .packet packet =>
    simp only [Input.completes?] at completes
    split at completes
    · rename_i kind
      have switched : c.onPacket packet = c.onAdvertisingSwitched := by
        simp only [onPacket, onCommandComplete, kind, completes, unattended.up]
        cases on <;> rfl
      simp only [step, switched, onAdvertisingSwitched, unattended.alone, unattended.named]
      cases c.advRequest with
      | none => rfl
      | some last => cases last <;> rfl
    · cases completes

end Core

/-- Advertising is asked for any number of times, and the commands are completed in the order of
the requests, in the midst of whatever else goes on while there is no client. -/
inductive Switching (past : List (Core × Input)) (c : Core) : Input → Prop
  | requested (on : Bool) : Switching past c (.enableAdvertising on)
  | answered {input : Input} {on : Bool} (due : (requests past)[answers past]? = some on)
      (completes : input.completes? = some (switchCommand on).opcode) : Switching past c input
  | aside {input : Input} (aside : c.Aside input) : Switching past c input

/-- What the link makes of a request and the completions that have come since. -/
inductive Core.Heeds (c : Core) (last : Bool) : Nat → Prop
  | unanswered (waiting : c.advRequest = some last) : Heeds c last 0
  | once (settled : c.advRequest = none) (follows : c.advertising = last) : Heeds c last 1
  | again {count : Nat} (settled : c.advRequest = none) (on : c.advertising = true) :
      Heeds c last (count + 2)

variable {initial c : Core} {past earlier later : List (Core × Input)} {last : Bool} {count : Nat}

theorem Core.Heeds.congr {after : Core} (heeds : c.Heeds last count)
    (same : after.beacon = c.beacon) : after.Heeds last count := by
  have request : after.advRequest = c.advRequest := congrArg Beacon.advRequest same
  have flag : after.advertising = c.advertising := congrArg Beacon.advertising same
  cases heeds with
  | unanswered waiting => exact .unanswered (request.trans waiting)
  | once settled follows => exact .once (request.trans settled) (flag.trans follows)
  | again settled on => exact .again (request.trans settled) (flag.trans on)

theorem Core.Heeds.answered {input : Input} (unattended : c.Unattended)
    (heeds : c.Heeds last count) (switches : input.Switches) :
    (c.step input).Heeds last (count + 1) := by
  rw [unattended.answered switches]
  cases heeds with
  | unanswered waiting =>
    refine .once rfl ?_
    simp only [waiting]
    cases last <;> rfl
  | once settled | again settled => exact .again rfl (by simp only [settled]; rfl)

theorem requests_append (past later : List (Core × Input)) :
    requests (past ++ later) = requests past ++ requests later := List.filterMap_append

theorem answers_append (past later : List (Core × Input)) :
    answers (past ++ later) = answers past + answers later := List.countP_append

theorem requests_single (c : Core) (input : Input) :
    requests [(c, input)] = input.advertises?.toList := by
  simp only [requests, List.filterMap_cons, List.filterMap_nil]
  cases input.advertises? <;> rfl

theorem answers_single (c : Core) (input : Input) :
    answers [(c, input)] = if input.Switches then 1 else 0 := by
  simp [answers, List.countP_cons]

/-- What one input of the rule does: a request takes the place of the one before it, and any other
input counts as an answer if it is a completion. -/
theorem Switching.step {input : Input} (keeps : Switching past c input)
    (unattended : c.Unattended) (bounded : answers past ≤ (requests past).length) :
    (c.step input).Unattended ∧
      answers (past ++ [(c, input)]) ≤ (requests (past ++ [(c, input)])).length ∧
      (∀ on, input = .enableAdvertising on → (c.step input).Heeds on 0) ∧
      (input.advertises? = none → ∀ last count, c.Heeds last count →
        (c.step input).Heeds last (count + answers [(c, input)])) := by
  rw [answers_append, requests_append, List.length_append, answers_single, requests_single]
  cases keeps with
  | requested on =>
    obtain ⟨same, still⟩ := unattended.requested on
    have unswitched : ¬(Input.enableAdvertising on).Switches := nofun
    rw [if_neg unswitched]
    refine ⟨still, by omega, ?_, nofun⟩
    rintro _ ⟨⟩
    exact .unanswered (congrArg Beacon.advRequest same)
  | @answered input on due completes =>
    have switches : input.Switches := ⟨on, completes⟩
    obtain ⟨before, -⟩ := List.getElem?_eq_some_iff.mp due
    rw [if_pos switches]
    refine ⟨?_, by omega, ?_, fun _ last count heeds => heeds.answered unattended switches⟩
    · rw [unattended.answered switches]
      exact ⟨unattended.up, unattended.ready, unattended.named, unattended.alone⟩
    · rintro on rfl
      cases completes
  | aside aside =>
    have same := aside.beacon unattended.up
    rw [if_neg aside.unswitched]
    refine ⟨unattended.aside aside, by omega, ?_, fun _ last count heeds => heeds.congr same⟩
    rintro on rfl
    cases aside.unrequested

/-- Up to any request the answers do not outnumber the requests; and of a request that is the last
one the link makes what it makes of it alone. -/
theorem RunUnder.heeds (unattended : initial.Unattended)
    (run : RunUnder Switching initial past c) :
    c.Unattended ∧ answers past ≤ (requests past).length ∧
      ∀ earlier d last later, past = earlier ++ (d, .enableAdvertising last) :: later →
        requests later = [] →
        answers earlier ≤ (requests earlier).length ∧ c.Heeds last (answers later) := by
  induction run with
  | start => exact ⟨unattended, Nat.le_refl 0, fun earlier _ _ _ split => by simp at split⟩
  | @next past c run input keeps ih =>
    obtain ⟨unattended, bounded, heeds⟩ := ih
    obtain ⟨still, within, fresh, passed⟩ := keeps.step unattended bounded
    refine ⟨still, within, fun earlier d last later split newest => ?_⟩
    rcases split_append split with ⟨rfl, rfl, request⟩ | ⟨between, rfl, rfl⟩
    · exact ⟨bounded, fresh last (congrArg Prod.snd request).symm⟩
    · rw [requests_append, List.append_eq_nil_iff, requests_single] at newest
      obtain ⟨before, heeded⟩ := heeds earlier d last between rfl newest.1
      rw [answers_append]
      exact ⟨before, passed (Option.toList_eq_nil_iff.mp newest.2) last _ heeded⟩

/-- Once every request is answered, the flag agrees with the last one just if that one was to
advertise, or no other was unanswered when it was made. -/
theorem RunUnder.advertising_follows_iff (unattended : initial.Unattended)
    (run : RunUnder Switching initial past c) {d : Core}
    (split : past = earlier ++ (d, .enableAdvertising last) :: later)
    (newest : requests later = []) (answered : answers past = (requests past).length) :
    c.advertising = last ↔ last = true ∨ answers earlier = (requests earlier).length := by
  obtain ⟨-, -, heeds⟩ := run.heeds unattended
  obtain ⟨before, heeded⟩ := heeds earlier d last later split newest
  have total : answers earlier + answers later = (requests earlier).length + 1 := by
    rw [split, List.append_cons, answers_append, answers_append, requests_append, requests_append,
      answers_single, requests_single, newest] at answered
    simpa [Input.Switches, Input.completes?, Input.advertises?] using answered
  generalize answers later = count at heeded total
  cases heeded with
  | unanswered => omega
  | once _ follows => exact iff_of_true follows (.inr (by omega))
  | again _ on =>
    have unequal : answers earlier ≠ (requests earlier).length := by omega
    rw [on]
    cases last <;> simp [unequal]

/-- Advertising is switched on and, when that is answered, off again. -/
theorem RunUnder.advertising_follows_iff_answered :
    let created := Core.create .standard (.stepping 0 1) "card" [1, 2, 3, 4, 5, 6] true
    let initial := (Input.session.take 30).foldl Core.step created
    initial.Unattended ∧ ∃ earlier d later c,
      RunUnder Switching initial (earlier ++ (d, .enableAdvertising false) :: later) c ∧
      later.map Prod.snd = [.nextCommand, .completed .setNonDiscoverable] ∧
      requests earlier = [true] ∧ answers earlier = 1 ∧ requests later = [] ∧
      d.advertising = true ∧ c.advertising = false := by
  intro created initial
  have unattended : initial.Unattended :=
    ⟨by decide +kernel, by decide +kernel, by decide +kernel, by decide +kernel⟩
  have unasked : RunUnder Switching initial [] initial := .start
  have asked := unasked.next (.requested true)
  have started := asked.next (show Switching _ _ (.completed .setDiscoverable) from
    .answered rfl rfl)
  have stopping := started.next (.requested false)
  have written := stopping.next (show Switching _ _ .nextCommand from .aside
    ⟨rfl, by decide, nofun, (by rintro (gone | gone | gone) <;> cases gone), by decide +kernel⟩)
  have stopped := written.next (show Switching _ _ (.completed .setNonDiscoverable) from
    .answered rfl rfl)
  have follows := stopped.advertising_follows_iff unattended
    (show _ = [_, _] ++ _ :: [_, _] from rfl) rfl rfl
  exact ⟨unattended, [_, _], _, [_, _], _, stopped, rfl, rfl, rfl, rfl, by decide +kernel,
    follows.mpr (.inr rfl)⟩

/-- Advertising is asked twice to be off before either request is answered, and it is taken to be
on. -/
theorem advertising_after_disabling :
    let created := Core.create .standard (.stepping 0 1) "card" [1, 2, 3, 4, 5, 6] true
    let initial := (Input.session.take 30).foldl Core.step created
    (∃ past, Run created past initial) ∧ initial.Unattended ∧ ∃ past c,
      RunUnder Switching initial past c ∧ requests past = [false, false] ∧ answers past = 2 ∧
      c.advertising = true := by
  intro created initial
  have unattended : initial.Unattended :=
    ⟨by decide +kernel, by decide +kernel, by decide +kernel, by decide +kernel⟩
  have unasked : RunUnder Switching initial [] initial := .start
  have once := unasked.next (.requested false)
  have twice := once.next (.requested false)
  have answered := twice.next (show Switching _ _ (.completed .setNonDiscoverable) from
    .answered rfl rfl)
  have again := answered.next (show Switching _ _ (.completed .setNonDiscoverable) from
    .answered rfl rfl)
  exact ⟨Run.script created _, unattended, _, _, again, rfl, rfl, by decide +kernel⟩

end CardLink.Controller
