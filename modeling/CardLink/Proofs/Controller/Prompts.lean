import CardLink.Proofs.Controller.Effects
import CardLink.Proofs.Packet
import CardLink.Proofs.Pairing.Replies

namespace CardLink

namespace Controller

/-- Who the device is, and what its user has been asked. -/
structure Profile where
  name : List UInt8
  address : List UInt8
  planeMode : Bool
  question : Option PairingQuestion

namespace Core

variable (c : Core)

def profile : Profile where
  name := c.name
  address := c.address
  planeMode := c.planeMode
  question := c.pairing.question

theorem profile_congr {c after : Core} (same : after.surroundings = c.surroundings) :
    after.profile = c.profile :=
  (congrArg profile same :)

theorem profile_close (reason : PairingEnd) :
    { c with pairing := c.pairing.close reason }.profile = c.profile :=
  congrArg (Profile.mk c.name c.address c.planeMode) (c.pairing.close_question reason)

@[simp]
theorem send_profile (command : Command) (params : List UInt8) :
    (c.send command params).profile = c.profile :=
  profile_congr (c.send_surroundings command params)

@[simp]
theorem switchAdvertising_profile (on : Bool) :
    (c.switchAdvertising on).profile = c.profile :=
  profile_congr (c.switchAdvertising_surroundings on)

theorem Sequenced.profile {c after : Core} (sequenced : c.Sequenced after) :
    after.profile = c.profile := by
  obtain ⟨f, command?, params, rfl, -⟩ := sequenced
  exact (profile_congr (dispatch_surroundings (c.placed f) command? params)).trans rfl

@[simp]
theorem stepAdvertising_profile : c.stepAdvertising.profile = c.profile :=
  c.stepAdvertising_sequenced.profile

@[simp]
theorem stepInit_profile (reply : List UInt8) : (c.stepInit reply).profile = c.profile :=
  (c.stepInit_sequenced reply).profile

@[simp]
theorem startAdvertising_profile : c.startAdvertising.profile = c.profile :=
  c.startAdvertising_sequenced.profile

@[simp]
theorem beginInit_profile : c.beginInit.profile = c.profile := by
  rw [beginInit_eq, send_profile]
  rfl

theorem onWriteAck_profile : c.onWriteAck.profile = c.profile :=
  profile_congr c.onWriteAck_surroundings

theorem onNotifyComplete_profile : c.onNotifyComplete.profile = c.profile := by
  obtain ⟨_, same⟩ := c.onNotifyComplete_surroundings
  exact (profile_congr same).trans rfl

theorem onAdvertisingSwitched_profile : c.onAdvertisingSwitched.profile = c.profile := by
  simp only [onAdvertisingSwitched]
  split
  · split
    · rw [beginInit_profile]
      exact profile_close _ _
    · rfl
  · split
    · split
      · rw [startAdvertising_profile]
        rfl
      · rfl
    · rfl

theorem onCommandComplete_profile (packet : EventPacket) :
    (c.onCommandComplete packet).profile = c.profile := by
  simp only [onCommandComplete]
  split
  · rfl
  split
  · split
    · rw [stepInit_profile]
    · rfl
  · split
    · rw [stepAdvertising_profile]
    · rfl
  · rfl
  all_goals
    split
    · rw [onWriteAck_profile]
    split
    · rw [onNotifyComplete_profile]
    split
    · exact c.onAdvertisingSwitched_profile
    · rfl

theorem onAttributeModified_profile (data : List UInt8) :
    (c.onAttributeModified data).profile = c.profile :=
  profile_congr (c.onAttributeModified_surroundings data)

theorem onWritePermit_profile (data : List UInt8) : (c.onWritePermit data).profile = c.profile :=
  profile_congr (c.onWritePermit_surroundings data)

theorem sendMessage_profile (data : List UInt8) : (c.sendMessage data).2.profile = c.profile :=
  profile_congr (c.sendMessage_surroundings data)

/-- The vendor event of the current connection that a packet is. -/
def ownEvent (packet : EventPacket) : Option VendorEvent :=
  if packet.code = EventCode.vendor ∧ 2 ≤ packet.vendorData.length ∧
      Word.littleAt packet.vendorData 0 = c.connection.handle then
    packet.vendorCode.bind VendorEvent.ofCode?
  else none

/-- What the current connection asks the user. -/
def asked : Input → Option PairingQuestion
  | .packet packet =>
    match c.ownEvent packet with
    | some .passKeyRequest => some .passkey
    | some .numericComparison => some .comparison
    | _ => none
  | _ => none

/-- The user answers, or the pairing of the current connection has come to its end. -/
def settles : Input → Bool
  | .packet packet => c.ownEvent packet == some .pairingComplete
  | .respond _ => true
  | _ => false

/-- What the device is called after an input. -/
def nameAfter : Input → List UInt8
  | .setDeviceName name => Advertising.clipName name
  | _ => c.name

def planeModeAfter : Input → Bool
  | .setPlaneMode on => on
  | _ => c.planeMode

/-- What an input makes of the question that the user has not answered. -/
def questionAfter (input : Input) : Option PairingQuestion :=
  if c.settles input then none else (c.asked input).or c.pairing.question

theorem asked_of_settles {input : Input} (settled : c.settles input = true) :
    c.asked input = none := by
  cases input with
  | packet packet =>
    have own : c.ownEvent packet = some .pairingComplete := beq_iff_eq.mp settled
    simp only [asked, own]
  | _ => rfl

theorem profile_unasked {packet : EventPacket} (other : c.ownEvent packet = none) :
    c.profile = { c.profile with question := c.questionAfter (.packet packet) } := by
  simp only [questionAfter, settles, asked, other]
  rfl

theorem onVendor_profile {packet : EventPacket} (code : packet.code = EventCode.vendor) :
    (c.onVendor packet).profile =
      { c.profile with question := c.questionAfter (.packet packet) } := by
  by_cases foreign : packet.vendorData.length < 2 ∨
      Word.littleAt packet.vendorData 0 ≠ c.connection.handle
  · have other : c.ownEvent packet = none :=
      if_neg fun own => foreign.elim (Nat.not_lt.mpr own.2.1) fun other => other own.2.2
    rw [onVendor, if_pos foreign]
    exact c.profile_unasked other
  · rw [onVendor, if_neg foreign]
    rw [not_or, Nat.not_lt, Decidable.not_not] at foreign
    simp only [questionAfter, settles, asked, ownEvent, code, foreign, and_self, if_true]
    cases packet.vendorCode.bind VendorEvent.ofCode? with
    | none => rfl
    | some event =>
      cases event with
      | pairingComplete | exchangeMtuResponse | connectionUpdateResponse | txPoolAvailable => rfl
      | passKeyRequest | numericComparison =>
        exact congrArg (Profile.mk c.name c.address c.planeMode) (Pairing.post_question _ _)
      | attributeModified => exact c.onAttributeModified_profile _
      | writePermitRequest => exact c.onWritePermit_profile _
      | indication => exact c.send_profile _ _
      | procedureTimeout => exact (beginInit_profile _).trans (c.profile_close _)

theorem onDisconnect_profile (params : List UInt8) :
    (c.onDisconnect params).profile = c.profile := by
  simp only [onDisconnect]
  split
  · rw [beginInit_profile]
    exact profile_close _ _
  · rw [startAdvertising_profile]
    exact profile_close _ _

theorem onLeMeta_profile (params : List UInt8) : (c.onLeMeta params).profile = c.profile := by
  rcases c.onLeMeta_cases params with ⟨connection, same⟩ | ⟨position, same⟩
  all_goals
    rw [same]
    rfl

/-- Only a vendor event asks or settles anything. -/
theorem onPacket_profile (packet : EventPacket) : (c.onPacket packet).profile =
    { c.profile with question := c.questionAfter (.packet packet) } := by
  have unasked (other : packet.kind ≠ .asynchronous) : c.ownEvent packet = none :=
    if_neg fun own => other (EventPacket.kind_of_vendor own.1)
  match kind : packet.kind with
  | .commandComplete =>
    simp only [onPacket, kind, onCommandComplete_profile]
    exact c.profile_unasked (unasked (by simp [kind]))
  | .commandStatus =>
    simp only [onPacket, kind]
    exact c.profile_unasked (unasked (by simp [kind]))
  | .leMeta subevent =>
    simp only [onPacket, kind, onLeMeta_profile]
    exact c.profile_unasked (unasked (by simp [kind]))
  | .hardwareError =>
    simp only [onPacket, kind, beginInit_profile]
    exact c.profile_unasked (unasked (by simp [kind]))
  | .asynchronous =>
    simp only [onPacket, kind]
    split
    · rename_i code
      rw [onDisconnect_profile]
      exact c.profile_unasked (if_neg fun own => absurd (code.symm.trans own.1) (by decide))
    split
    · rename_i code
      have same : (c.onEncryptionChange packet.params).profile = c.profile := by
        unfold onEncryptionChange
        split <;> rfl
      rw [same]
      exact c.profile_unasked (if_neg fun own => absurd (code.symm.trans own.1) (by decide))
    split
    · rename_i code
      exact c.onVendor_profile code
    · rename_i other
      exact c.profile_unasked (if_neg fun own => other own.1)

/-- The name and the plane mode are as they were set last, and a question stays until it is answered or the pairing ends:
no other input drops it. -/
theorem step_profile (input : Input) : (c.step input).profile = {
    name := c.nameAfter input
    address := c.address
    planeMode := c.planeModeAfter input
    question := c.questionAfter input } := by
  cases input with
  | packet packet => exact c.onPacket_profile packet
  | respond answer =>
    have answered := congrArg (Profile.mk c.name c.address c.planeMode) (c.pairing.respond_question answer)
    simp only [step, respond, questionAfter, settles, if_true]
    split
    · rw [send_profile]
      exact answered
    · rw [send_profile]
      exact answered
    · exact answered
  | beginInit => exact c.beginInit_profile
  | sendMessage data => exact c.sendMessage_profile data
  | tick =>
    simp only [step, onTick]
    split <;> rfl
  | nextCommand =>
    simp only [step, nextCommand]
    split <;> rfl
  | commandDropped =>
    simp only [step, commandDropped]
    split <;> rfl
  | poll | setDeviceName | setPlaneMode => rfl
  | nextPairingMessage =>
    simp only [step, nextPairingMessage, Pairing.nextMessage]
    split <;> rfl
  | enableAdvertising on =>
    simp only [step, enableAdvertising]
    split
    · split
      · rfl
      · exact switchAdvertising_profile _ on
    · rfl
  | resetPairings =>
    simp only [step, resetPairings]
    split
    · split
      · exact beginInit_profile _
      · exact c.send_profile _ _
    · rfl

/-- A request is noted, and the connection stays. -/
theorem step_of_asked {input : Input} {question : PairingQuestion}
    (asked : c.asked input = some question) :
    c.effect input = .other ∧ (c.step input).connection = c.connection := by
  cases input with
  | packet packet =>
    obtain ⟨event, own, asks⟩ : ∃ event, c.ownEvent packet = some event ∧
        (event = .passKeyRequest ∨ event = .numericComparison) := by
      simp only [Core.asked] at asked
      split at asked
      · exact ⟨_, ‹_›, .inl rfl⟩
      · exact ⟨_, ‹_›, .inr rfl⟩
      · cases asked
    obtain ⟨⟨code, long, handle⟩, named⟩ := Option.ite_none_right_eq_some.mp own
    have kind := EventPacket.kind_of_vendor code
    have passed : ¬(packet.vendorData.length < 2 ∨
        Word.littleAt packet.vendorData 0 ≠ c.connection.handle) :=
      not_or.mpr ⟨Nat.not_lt.mpr long, not_not_intro handle⟩
    simp only [Core.effect, packetEffect, kind, code, vendorEffect, step, onPacket, onVendor,
      if_neg passed, named]
    rcases asks with rfl | rfl <;> exact ⟨rfl, rfl⟩
  | _ => cases asked

end Core

end Controller

end CardLink
