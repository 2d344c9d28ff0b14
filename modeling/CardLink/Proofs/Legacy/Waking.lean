import CardLink.Proofs.Legacy.Courses
import CardLink.Proofs.Legacy.Inputs
import CardLink.Proofs.Legacy.Retrying
import CardLink.Proofs.Since

namespace CardLink

/-- A notification buffer has become free. -/
def PlatformEvent.frees : PlatformEvent → Bool
  | .hci raw =>
    match EventPacket.parse raw with
    | .error _ => false
    | .ok packet => packet.vendorCode.bind VendorEvent.ofCode? == some .txPoolAvailable
  | .tick | .usb _ | .other => false

namespace Legacy

namespace Happening

def frees : Happening → Bool
  | took event _ => event.frees
  | switchedRadio _ | setUp => false

def severs : Happening → Bool
  | took _ severs => severs
  | switchedRadio _ | setUp => false

end Happening

/-- A buffer has become free, and the client has not been lost since. -/
def Live (course : List Happening) : Prop := Since (·.frees = true) (·.severs = true) course

namespace Core

theorem onLeMeta_txPoolAvailable (c : Core) (params : List UInt8) :
    (c.onLeMeta params).txPoolAvailable = c.txPoolAvailable := by
  unfold onLeMeta
  split
  · split <;> rfl
  · rfl

theorem onWritePermit_txPoolAvailable (c : Core) (data : List UInt8) :
    (c.onWritePermit data).txPoolAvailable = c.txPoolAvailable := by
  cases asked : Permit.ofData? data with
  | none => rw [c.onWritePermit_short asked]
  | some permit =>
    rw [c.onWritePermit_eq asked, push_eq]
    dsimp only
    split
    · obtain ⟨endpoint, fed⟩ := c.feed_eq permit.value
      rw [fed]
    · rfl

theorem onVendor_txPoolAvailable (c : Core) (packet : EventPacket) :
    (c.onVendor packet).txPoolAvailable = true ↔
      packet.vendorCode.bind VendorEvent.ofCode? = some .txPoolAvailable ∨
        c.txPoolAvailable = true := by
  unfold onVendor
  match named : packet.vendorCode.bind VendorEvent.ofCode? with
  | some .txPoolAvailable => simp
  | some .writePermitRequest => simp [onWritePermit_txPoolAvailable]
  | some .attributeModified =>
    simp only [onAttributeModified]
    split
    · split <;> simp
    · simp
  | some .pairingComplete | some .passKeyRequest | some .numericComparison
  | some .connectionUpdateResponse | some .procedureTimeout | some .exchangeMtuResponse
  | some .indication | none => simp

theorem onPacket_txPoolAvailable (c : Core) (packet : EventPacket) :
    (c.onPacket packet).txPoolAvailable = true ↔
      packet.vendorCode.bind VendorEvent.ofCode? = some .txPoolAvailable ∨
        c.txPoolAvailable = true ∧ packet.code ≠ EventCode.disconnectionComplete := by
  have foreign (other : packet.code ≠ EventCode.vendor) :
      packet.vendorCode.bind VendorEvent.ofCode? ≠ some .txPoolAvailable :=
    fun named => other (EventPacket.code_of_vendorEvent named)
  unfold onPacket
  split
  · rename_i gone
    have unnamed := foreign (by rw [gone]; decide)
    rw [restartLink, push_eq]
    exact iff_of_false Bool.false_ne_true fun either =>
      either.elim unnamed fun kept => kept.2 gone
  · rename_i linked
    simp only [ne_eq, linked, not_false_eq_true, and_true]
    split
    · rename_i code
      rw [onLeMeta_txPoolAvailable]
      exact (or_iff_right (foreign (by rw [code]; decide))).symm
    · split
      · exact c.onVendor_txPoolAvailable packet
      · rename_i other
        exact (or_iff_right (foreign other)).symm

/-- The flag tells that a buffer has become free, until the client is lost. -/
theorem heard_txPoolAvailable (c : Core) (event : PlatformEvent) :
    (c.heard event).txPoolAvailable = true ↔
      event.frees = true ∨ c.txPoolAvailable = true ∧ c.loses event = false := by
  cases event with
  | usb | other => simp [heard, PlatformEvent.frees, loses, PlatformEvent.disconnects]
  | tick =>
    simp only [heard, onTick, PlatformEvent.frees, loses]
    split
    · rename_i late
      rw [restartLink, push_eq, late]
      simp [resetLink]
    · rename_i timely
      simp [timely]
  | hci raw =>
    simp only [heard, PlatformEvent.frees, loses, PlatformEvent.disconnects]
    cases EventPacket.parse raw with
    | error => simp
    | ok packet => simp [onPacket_txPoolAvailable]

/-- A flag that is right goes on telling whether a buffer is free. -/
theorem live_hearings {c : Core} {past : List Happening}
    (live : c.txPoolAvailable = true ↔ Live past) (events : List PlatformEvent) :
    (events.foldl heard c).txPoolAvailable = true ↔ Live (past ++ c.hearings events) := by
  induction events generalizing c past with
  | nil => rwa [hearings, List.append_nil]
  | cons event rest ih =>
    rw [hearings, List.append_cons]
    refine ih ?_
    rw [heard_txPoolAvailable, live]
    refine Iff.trans ?_ since_append.symm
    simp only [Happening.frees, Happening.severs, Bool.not_eq_true]
    rfl

/-- The events of a wait: before each of them no buffer is free, and the client is there. -/
def Asleep (past : List Happening) (c : Core) (events : List PlatformEvent) : Prop :=
  ∀ earlier event later, events = earlier ++ event :: later →
    ¬Live (past ++ c.hearings earlier) ∧ (earlier.foldl heard c).connection.isSome = true

theorem asleep_nil (past : List Happening) (c : Core) : Asleep past c [] := by
  rintro (_ | _) event later split <;> cases split

theorem Asleep.cons {past : List Happening} {c : Core} {event : PlatformEvent}
    {rest : List PlatformEvent} (unfree : ¬Live past) (there : c.connection.isSome = true)
    (asleep : Asleep (past ++ [.took event (c.loses event)]) (c.heard event) rest) :
    Asleep past c (event :: rest) := by
  rintro (_ | ⟨first, earlier⟩) next later split
  · exact ⟨by rwa [hearings, List.append_nil], there⟩
  · obtain ⟨rfl, behind⟩ := List.cons.inj split
    rw [hearings, List.append_cons]
    exact asleep earlier next later behind

/-- How a wait ends, with this left of the events. -/
inductive Roused (free : Prop) (c : Core) (rest : List PlatformEvent) :
    Except WriteError Unit → Prop
  | woken (freed : free) : Roused free c rest (.ok ())
  | lost (unfree : ¬free) (gone : c.connection = none) : Roused free c rest (.error .notConnected)
  | drained (unfree : ¬free) (there : c.connection.isSome = true) (empty : rest = []) :
      Roused free c rest (.error .io)

theorem roused_now {past : List Happening} {c : Core} {rest : List PlatformEvent}
    {result : Except WriteError Unit} (roused : Roused (Live past) c rest result) :
    Roused (Live (past ++ c.hearings [])) c rest result := by
  rwa [hearings, List.append_nil]

theorem awaitPool_free {c : Core} (free : c.txPoolAvailable = true) (events : List PlatformEvent)
    (r : Requester) : awaitPool events r c = (.ok (), events, r, c) := by
  cases events <;> simp [awaitPool, free]

theorem awaitPool_gone {c : Core} (full : ¬c.txPoolAvailable = true) (gone : c.connection = none)
    (events : List PlatformEvent) (r : Requester) :
    awaitPool events r c = (.error .notConnected, events, r, c) := by
  cases events <;> simp [awaitPool, full, gone]

/-- The wait takes events from the head of the queue, and none too many. -/
theorem awaitPool_roused {r : Requester} {size period : Nat}
    (reach : Requester.Reach size period r) (positive : 0 < size) (events : List PlatformEvent)
    {past : List Happening} {c : Core} (live : c.txPoolAvailable = true ↔ Live past) :
    ∃ taken, events = taken ++ (awaitPool events r c).2.1 ∧
      (awaitPool events r c).2.2.2 = taken.foldl heard c ∧ Asleep past c taken ∧
      Roused (Live (past ++ c.hearings taken)) (taken.foldl heard c) (awaitPool events r c).2.1
        (awaitPool events r c).1 := by
  by_cases free : c.txPoolAvailable = true
  · rw [awaitPool_free free]
    exact ⟨[], rfl, rfl, asleep_nil _ _, roused_now (.woken (live.mp free))⟩
  have unfree : ¬Live past := mt live.mpr free
  cases connected : c.connection with
  | none =>
    rw [awaitPool_gone free connected]
    exact ⟨[], rfl, rfl, asleep_nil _ _, roused_now (.lost unfree connected)⟩
  | some handle =>
    have there : c.connection.isSome = true := Option.isSome_of_eq_some connected
    cases events with
    | nil =>
      simp only [awaitPool, free, connected]
      exact ⟨[], rfl, rfl, asleep_nil _ _, roused_now (.drained unfree there rfl)⟩
    | cons event rest =>
      have hears := takeEvent_heard reach positive event c
      have next := live_hearings live [event]
      rw [List.foldl_cons, List.foldl_nil, ← hears] at next
      obtain ⟨taken, split, heard, asleep, roused⟩ :=
        awaitPool_roused (takeEvent_reach event reach c) positive rest next
      rw [hears] at split heard asleep roused
      have waits : awaitPool (event :: rest) r c =
          awaitPool rest (takeEvent event r c).1 (takeEvent event r c).2 := by
        simp [awaitPool, free, connected]
      rw [waits, hears]
      refine ⟨event :: taken, congrArg (event :: ·) split, heard, .cons unfree there asleep, ?_⟩
      rw [hearings, List.append_cons]
      exact roused
termination_by events.length

end Core

namespace Link

variable {params : List UInt8} {l : Link}

/-- The link takes these events and does nothing else, until the wait ends in this way. -/
structure Waits (past : List Happening) (l : Link) (events : List PlatformEvent)
    (result : Except WriteError Unit) (after : Link) : Prop where
  asleep : Core.Asleep past l.core events
  taken : l.platform.queue = events ++ after.platform.queue
  heard : after.core = events.foldl Core.heard l.core
  kept : after = { l with
    platform := { l.platform with queue := after.platform.queue }
    requester := after.requester
    core := after.core }
  roused : Core.Roused (Live (past ++ l.core.hearings events)) after.core after.platform.queue result

/-- A value is written again for as long as it is refused: at once if a buffer has become free since
the refused write, and otherwise as soon as one does. -/
inductive Persists (params : List UInt8) : Link → Except WriteError Unit → Link → Prop
  | decided {l : Link} (taken : Update.refused ⟨params, (l.write params).1⟩ = false) :
      Persists params l (Update.outcome ⟨params, (l.write params).1⟩) (l.write params).2
  | awake {l after : Link} {result : Except WriteError Unit}
      (full : Update.refused ⟨params, (l.write params).1⟩ = true)
      (free : Live (l.writeCourse params)) (again : Persists params (l.write params).2 result after) :
      Persists params l result after
  | woken {l roused after : Link} {events : List PlatformEvent} {result : Except WriteError Unit}
      (full : Update.refused ⟨params, (l.write params).1⟩ = true)
      (unfree : ¬Live (l.writeCourse params))
      (waits : Waits (l.writeCourse params) (l.write params).2 events (.ok ()) roused)
      (again : Persists params roused result after) : Persists params l result after
  | failed {l after : Link} {events : List PlatformEvent} {error : WriteError}
      (full : Update.refused ⟨params, (l.write params).1⟩ = true)
      (unfree : ¬Live (l.writeCourse params))
      (waits : Waits (l.writeCourse params) (l.write params).2 events (.error error) after) :
      Persists params l (.error error) after

theorem waitTxPool_waits {past : List Happening} (rests : l.Rests)
    (policy : l.settings.legacyRetry = .unbounded)
    (live : l.core.txPoolAvailable = true ↔ Live past) :
    ∃ events, Waits past l events l.waitTxPool.1 l.waitTxPool.2 := by
  obtain ⟨period, reach⟩ := rests
  obtain ⟨events, split, heard, asleep, roused⟩ :=
    Core.awaitPool_roused reach (by decide) l.platform.queue live
  simp only [waitTxPool, policy]
  generalize awaitPool l.platform.queue l.requester l.core = waited at *
  obtain ⟨result, rest, requester, core⟩ := waited
  exact ⟨events, asleep, split, heard, rfl, heard ▸ roused⟩

/-- After a write the flag tells whether a buffer has become free since. -/
theorem write_live (rests : l.Rests) (params : List UInt8) :
    (l.write params).2.core.txPoolAvailable = true ↔ Live (l.writeCourse params) := by
  obtain ⟨period, reach⟩ := rests
  let cleared : Link := { l with core := { l.core with txPoolAvailable := false } }
  obtain ⟨-, heard, -⟩ := reach.ask_taken (by decide) Core.listener
    (cleared.request .updateCharValue params 1) l.platform cleared.core not_reportsFull_completion
  have observed : (cleared.request .updateCharValue params 1).observe Core.listener = Core.heard :=
    funext fun c => funext fun event => Core.observe_eq_heard rfl c event
  rw [observed] at heard
  have none : cleared.core.txPoolAvailable = true ↔ Live [] :=
    iff_of_false Bool.false_ne_true not_since_nil
  have core : (l.write params).2.core = _ := heard
  rw [core]
  exact Core.live_hearings none _

/-- A refused update without a bound on the retries is followed by a wait. -/
theorem updateWithin_refused (rounds count : Nat) (policy : l.settings.legacyRetry = .unbounded)
    (full : Update.refused ⟨params, (l.write params).1⟩ = true) :
    updateWithin params (rounds + 1) count l =
      match (l.write params).2.waitTxPool with
      | (.error error, l) => (.error error, l)
      | (.ok (), l) => updateWithin params rounds (min 65535 (count + 1)) l := by
  have allowed : (l.write params).2.settings.legacyRetry.allows (min 65535 (count + 1)) = true := by
    rw [show (l.write params).2.settings.legacyRetry = .unbounded from policy]
    rfl
  simp only [updateWithin]
  rw [show ask _ _ params 1 = l.write params from rfl]
  generalize l.write params = out at *
  obtain ⟨answer, after⟩ := out
  unfold Update.refused at full
  cases answer with
  | error => cases full
  | ok statuses =>
    cases statuses with
    | nil => cases full
    | cons status =>
      have full : status = statusInsufficientResources := Option.some.inj (beq_iff_eq.mp full)
      have untaken : status ≠ 0 := full ▸ (by decide)
      exact (if_neg untaken).trans ((if_pos full).trans (if_pos allowed))

theorem waitTxPool_free (policy : l.settings.legacyRetry = .unbounded)
    (free : l.core.txPoolAvailable = true) : l.waitTxPool = (.ok (), l) := by
  simp only [waitTxPool, policy, Core.awaitPool_free free]

theorem Waits.remaining_le {past : List Happening} {events : List PlatformEvent} {after : Link}
    {result : Except WriteError Unit} (waits : Waits past l events result after)
    (kind : PlatformEvent → Bool) : after.platform.remaining kind ≤ l.platform.remaining kind := by
  rw [waits.kept]
  simp only [Platform.remaining, Platform.scripted, waits.taken, List.countP_append]
  omega

theorem updateWithin_persists (rounds count : Nat) (rests : l.Rests)
    (policy : l.settings.legacyRetry = .unbounded)
    (enough : l.platform.remaining reportsFull < rounds) :
    Persists params l (updateWithin params rounds count l).1
      (updateWithin params rounds count l).2 := by
  induction rounds generalizing count l with
  | zero => exact absurd enough (Nat.not_lt_zero _)
  | succ rounds ih =>
    cases full : Update.refused ⟨params, (l.write params).1⟩ with
    | false =>
      have spent : Update.refused ⟨params, (l.write params).1⟩ = true →
        l.settings.legacyRetry.allows (min 65535 (count + 1)) = false :=
          fun refused => absurd (full.symm.trans refused) Bool.false_ne_true
      rw [(updateWithin_ended rounds spent).1]
      exact .decided full
    | true =>
      have fewer : (l.write params).2.platform.remaining reportsFull < rounds :=
        Nat.lt_of_lt_of_le (write_spends rests full) (Nat.le_of_lt_succ enough)
      have live := write_live rests params
      have unbounded : (l.write params).2.settings.legacyRetry = .unbounded := policy
      rw [updateWithin_refused rounds count policy full]
      by_cases free : Live (l.writeCourse params)
      · rw [waitTxPool_free unbounded (live.mpr free)]
        exact .awake full free (ih _ (rests_lasting.write rests params) policy fewer)
      · obtain ⟨events, waits⟩ := waitTxPool_waits (rests_lasting.write rests params) unbounded live
        have rested := rests_lasting.waitTxPool (rests_lasting.write rests params)
        generalize (l.write params).2.waitTxPool = out at waits rested
        obtain ⟨result, roused⟩ := out
        cases result with
        | error error => exact .failed full free waits
        | ok =>
          have same : roused.settings.legacyRetry = .unbounded :=
            (congrArg (·.settings.legacyRetry) waits.kept).trans unbounded
          refine .woken full free waits (ih _ rested same ?_)
          exact Nat.lt_of_le_of_lt (waits.remaining_le reportsFull) fewer

/-- Without a bound on the retries, a refused value is written again whenever the buffer that it
waits for has become free, whatever the events and their order: no such event is missed. The wait
ends without one only where the client is gone or there is no event left. -/
theorem updateCharValue_persists (rests : l.Rests) (policy : l.settings.legacyRetry = .unbounded)
    (service handle : UInt16) (value : List UInt8) :
    Persists (valueParams service handle value) l (l.updateCharValue service handle value).1
      (l.updateCharValue service handle value).2 :=
  updateWithin_persists _ 0 rests policy (Nat.lt_succ_of_le (l.platform.remaining_le reportsFull))

/-- The first refusal comes after a buffer has become free, the second one before another one does,
and the third one before the client is lost. -/
theorem updateCharValue_persists_thrice :
    let freed := PlatformEvent.hci [0x04, 0xFF, 0x02, 0x16, 0x0C]
    let lost := PlatformEvent.hci [0x04, 0x05, 0x04, 0x00, 0x01, 0x08, 0x13]
    let full := PlatformEvent.hci [0x04, 0x0E, 0x04, 0x01, 0x06, 0xFD, 0x64]
    let rule (events : List PlatformEvent) : ReplyRule := ⟨Command.updateCharValue.opcode, events⟩
    let platform : Platform :=
      { rules := [rule [freed, full], rule [full, .tick, freed, .tick], rule [full, lost, freed]] }
    let created := create .standard [1, 2, 3, 4] platform
    let l := { created with core := created.core.onConnected 0x0801 }
    (l.Rests ∧ l.settings.legacyRetry = .unbounded) ∧
    (l.updateCharValue 0x40 0x50 [0x2A]).2.core.connection = none ∧
    (l.updateCharValue 0x40 0x50 [0x2A]).2.platform.frames.length = 3 ∧
    (l.updateCharValue 0x40 0x50 [0x2A]).2.platform.queue = [freed] ∧
    Persists (valueParams 0x40 0x50 [0x2A]) l (l.updateCharValue 0x40 0x50 [0x2A]).1
      (l.updateCharValue 0x40 0x50 [0x2A]).2 := by
  intro freed lost full rule platform created l
  have begun : Reachable .standard [1, 2, 3, 4] created := .create platform
  have rests : l.Rests := begun.rests
  have policy : l.settings.legacyRetry = .unbounded := rfl
  exact ⟨⟨rests, policy⟩, by decide +kernel, by decide +kernel, by decide +kernel,
    updateCharValue_persists rests policy 0x40 0x50 [0x2A]⟩

end Link

end Legacy

end CardLink
