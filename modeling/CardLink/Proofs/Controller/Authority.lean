import CardLink.Proofs.Controller.Effects
import CardLink.Proofs.Packet

namespace CardLink.Controller

/-- The host has switched notifications on since it connected, and not off again. -/
def Subscribed (past : List (Core × Input)) : Prop :=
  Since (fun e => e.1.effect e.2 = .subscribed true)
    (fun e => (e.1.effect e.2).Severs ∨ e.1.effect e.2 = .subscribed false) past

/-- The connection has been encrypted since it was made, and is still. -/
def Encrypted (past : List (Core × Input)) : Prop :=
  Since (fun e => e.1.effect e.2 = .encrypted true)
    (fun e => (e.1.effect e.2).Severs ∨ e.1.effect e.2 = .encrypted false) past

/-- The packet reports a write of the host, one that is done or one that asks for a permit. -/
def HostWrites (packet : EventPacket) : Prop :=
  packet.code = EventCode.vendor ∧
    (packet.vendorCode.bind VendorEvent.ofCode? = some .attributeModified ∨
      packet.vendorCode.bind VendorEvent.ofCode? = some .writePermitRequest)

namespace Core

variable {c : Core} {effect : Effect} {after : Exchange}

/-- What the host was granted, once an input has had its effect. -/
theorem Shift.granted (shift : c.Shift effect after) :
    after.notifications = (match effect with
      | .restarted | .connected | .disconnected => false
      | .subscribed on => on
      | _ => c.notifications) ∧
    after.encrypted = (match effect with
      | .restarted | .connected | .disconnected => false
      | .encrypted on => on
      | _ => c.connection.encrypted) := by
  have kept {x : Exchange} (same : after.terms = x.terms) :
      after.notifications = x.notifications ∧ after.encrypted = x.encrypted :=
    ⟨congrArg Terms.notifications same, congrArg Terms.encrypted same⟩
  cases shift with
  | restarted | connected | disconnected | subscribed | encrypted | tuned | permitted | polled
  | sequenced | other => exact ⟨rfl, rfl⟩
  | written _ _ _ fed => exact kept fed.terms
  | writeAcknowledged answered => exact kept answered.terms
  | notified acknowledged => exact kept acknowledged.terms
  | ticked ticked => exact kept ticked.terms
  | sent _ sent => exact kept sent.terms

theorem Shift.notifications_iff (shift : c.Shift effect after) :
    after.notifications = true ↔ effect = .subscribed true ∨
      c.notifications = true ∧ ¬(effect.Severs ∨ effect = .subscribed false) := by
  rw [shift.granted.1]
  unfold Effect.Severs
  cases effect with
  | subscribed on => cases on <;> simp
  | _ => simp

theorem Shift.encrypted_iff (shift : c.Shift effect after) :
    after.encrypted = true ↔ effect = .encrypted true ∨
      c.connection.encrypted = true ∧ ¬(effect.Severs ∨ effect = .encrypted false) := by
  rw [shift.granted.2]
  unfold Effect.Severs
  cases effect with
  | encrypted on => cases on <;> simp
  | _ => simp

/-- A write of the host switches notifications, reaches the endpoint, or is at most answered. -/
theorem effect_of_hostWrites {packet : EventPacket} (writes : HostWrites packet) :
    (∃ on, c.effect (.packet packet) = .subscribed on) ∨
      (∃ permit value, c.effect (.packet packet) = .written permit value) ∨
      c.effect (.packet packet) = .permitted ∨ c.effect (.packet packet) = .other := by
  obtain ⟨code, event⟩ := writes
  have kind := EventPacket.kind_of_vendor code
  have reached : c.effect (.packet packet) = c.vendorEffect packet := by
    simp only [Core.effect, packetEffect, kind, code]
    rfl
  rw [reached]
  simp only [vendorEffect]
  split
  · exact .inr (.inr (.inr rfl))
  · rcases event with event | event
    · simp only [event, modificationEffect]
      split
      · exact .inr (.inr (.inr rfl))
      · split
        · exact .inl ⟨_, rfl⟩
        · split
          · exact .inr (.inl ⟨_, _, rfl⟩)
          · exact .inr (.inr (.inr rfl))
    · simp only [event, permitEffect]
      split
      · exact .inr (.inr (.inr rfl))
      · split
        · exact .inr (.inl ⟨_, _, rfl⟩)
        · exact .inr (.inr (.inl rfl))

/-- A write that does not reach the endpoint switches notifications at most, or waits to be
answered; nothing is notified. -/
theorem step_unwritten {packet : EventPacket} (writes : HostWrites packet)
    (unwritten : ∀ permit value, c.effect (.packet packet) ≠ .written permit value) :
    ∃ on waits notices, notices <:+ c.notices ∧ (c.step (.packet packet)).exchange =
      { c.exchange with notifications := on, awaitingWriteAck := waits, notices := notices } := by
  have shift := c.step_shift (.packet packet)
  rcases effect_of_hostWrites (c := c) writes with
    ⟨on, effect⟩ | ⟨permit, value, effect⟩ | effect | effect
  · rw [effect] at shift
    generalize (c.step (.packet packet)).exchange = after at *
    cases shift
    exact ⟨on, c.awaitingWriteAck, c.notices, List.suffix_refl _, rfl⟩
  · exact absurd effect (unwritten permit value)
  · rw [effect] at shift
    generalize (c.step (.packet packet)).exchange = after at *
    cases shift
    exact ⟨c.notifications, true, c.notices, List.suffix_refl _, rfl⟩
  · rw [effect] at shift
    generalize (c.step (.packet packet)).exchange = after at *
    cases shift with
    | other notices fewer => exact ⟨c.notifications, c.awaitingWriteAck, notices, fewer, rfl⟩

end Core

variable {settings : Settings} {random : RandomSource} {name : String} {address : List UInt8}
  {planeMode : Bool} {past : List (Core × Input)} {c : Core}

theorem Run.granted (run : Run (.create settings random name address planeMode) past c) :
    (c.notifications = true ↔ Subscribed past) ∧
      (c.connection.encrypted = true ↔ Encrypted past) := by
  unfold Subscribed Encrypted
  induction run with
  | start =>
    exact ⟨iff_of_false nofun not_since_nil, iff_of_false nofun not_since_nil⟩
  | next run input ih =>
    rw [since_append, since_append, ← ih.1, ← ih.2]
    exact ⟨(Core.step_shift _ input).notifications_iff, (Core.step_shift _ input).encrypted_iff⟩

theorem Run.acceptsWrites_iff
    (run : Run (.create settings random name address planeMode) past c) :
    c.acceptsWrites = true ↔ Subscribed past ∧ Encrypted past := by
  rw [Core.acceptsWrites, Bool.and_eq_true, run.granted.1, run.granted.2]

/-- Only a host that has subscribed on an encrypted connection reaches the endpoint. -/
theorem Run.authorized_of_written
    (run : Run (.create settings random name address planeMode) past c) {input : Input}
    {permit : Bool} {value : List UInt8} (written : c.effect input = .written permit value) :
    Subscribed past ∧ Encrypted past := by
  have shift := c.step_shift input
  rw [written] at shift
  cases shift with
  | written _ _ granted => exact run.acceptsWrites_iff.mp granted

end CardLink.Controller
