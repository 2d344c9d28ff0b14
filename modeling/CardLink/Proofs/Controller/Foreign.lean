import CardLink.Proofs.Controller.Effects
import CardLink.Proofs.Packet

namespace CardLink

/-- The connection that an event names, in the place that its kind has for it. Bytes that are
missing count as zero. -/
inductive EventPacket.Names (p : EventPacket) : UInt16 → Prop
  | disconnected (code : p.code = EventCode.disconnectionComplete) :
      Names p (Word.littleAt p.params 1)
  | encrypted (code : p.code = EventCode.encryptionChange) : Names p (Word.littleAt p.params 1)
  | updated (code : p.code = EventCode.leMeta)
      (event : p.params.head?.bind LeEvent.ofCode? = some .connectionUpdateComplete) :
      Names p (Word.littleAt p.params 2)
  | resized (code : p.code = EventCode.leMeta)
      (event : p.params.head?.bind LeEvent.ofCode? = some .dataLengthChange) :
      Names p (Word.littleAt p.params 1)
  | rated (code : p.code = EventCode.leMeta)
      (event : p.params.head?.bind LeEvent.ofCode? = some .phyUpdateComplete) :
      Names p (Word.littleAt p.params 2)
  | vendor (code : p.code = EventCode.vendor) : Names p (Word.littleAt p.vendorData 0)

/-- The event is taken for one of the current connection, whichever it names. -/
def EventPacket.Unchecked (p : EventPacket) : Prop :=
  p.code = EventCode.disconnectionComplete ∨ p.code = EventCode.leMeta ∧
    p.params.head?.bind LeEvent.ofCode? = some .connectionUpdateComplete

namespace Controller.Core

variable {c : Core} {packet : EventPacket} {handle : UInt16}

theorem beginInit_connection (c : Core) : c.beginInit.connection = {} := rfl

theorem onDisconnect_connection (c : Core) (params : List UInt8) :
    (c.onDisconnect params).connection = {} := by
  simp only [onDisconnect]
  split
  · exact beginInit_connection _
  · exact startAdvertising_connection rfl

theorem onDisconnect_unconnected (c : Core) (params : List UInt8) :
    (c.onDisconnect params).connection.isConnected = false := by
  rw [onDisconnect_connection]
  rfl

theorem onPacket_foreign (names : packet.Names handle) (foreign : handle ≠ c.connection.handle)
    (checked : ¬packet.Unchecked) : c.onPacket packet = c := by
  cases names with
  | disconnected code => exact absurd (.inl code) checked
  | encrypted code =>
    have kind := EventPacket.kind_of_encryption code
    simp only [onPacket, kind, code, onEncryptionChange, if_neg foreign]
    rfl
  | updated code event => exact absurd (.inr ⟨code, event⟩) checked
  | resized code event | rated code event =>
    have kind := EventPacket.kind_of_leMeta code
    simp only [onPacket, kind, onLeMeta, event, onDataLength, onPhyUpdate, if_neg foreign]
  | vendor code =>
    have kind := EventPacket.kind_of_vendor code
    simp only [onPacket, kind, code, onVendor, foreign, ne_eq, not_false_eq_true, or_true, if_true]
    rfl

theorem mtuFault_foreign (names : packet.Names handle) (foreign : handle ≠ c.connection.handle) :
    c.mtuFault packet = false := by
  unfold mtuFault
  by_cases code : packet.code = EventCode.vendor
  · cases names with
    | vendor => simp [foreign]
    | disconnected other | encrypted other | updated other | resized other | rated other =>
      exact absurd (code.symm.trans other) (by decide)
  · simp [EventPacket.vendorCode, code]

/-- The current connection is dropped, or takes the other's name. -/
theorem onPacket_unchecked (client : c.connection.isConnected = true) (names : packet.Names handle)
    (foreign : handle ≠ c.connection.handle) (unchecked : packet.Unchecked) :
    (c.onPacket packet).connection.handle ≠ c.connection.handle := by
  rcases unchecked with code | ⟨code, event⟩
  · have kind := EventPacket.kind_of_disconnection code
    have reached : c.onPacket packet = c.onDisconnect packet.params := by
      simp only [onPacket, kind, code, if_true]
    have gone := c.onDisconnect_unconnected packet.params
    intro same
    rw [reached] at same
    rw [Connection.isConnected, same] at gone
    exact absurd (client.symm.trans gone) (by decide)
  · have kind := EventPacket.kind_of_leMeta code
    have renamed : (c.onPacket packet).connection.handle = Word.littleAt packet.params 2 := by
      simp only [onPacket, kind, onLeMeta, event, onConnectionUpdate]
    rw [renamed]
    cases names with
    | updated => exact foreign
    | resized _ other | rated _ other => exact absurd (event.symm.trans other) (by decide)
    | disconnected other | encrypted other | vendor other =>
      exact absurd (code.symm.trans other) (by decide)

/-- While a client is connected, an event for another connection changes nothing and queues nothing,
except a disconnection and an update of the connection: these two are not told apart from those of
the current connection. -/
theorem onPacket_foreign_iff (client : c.connection.isConnected = true)
    (names : packet.Names handle) (foreign : handle ≠ c.connection.handle) :
    c.onPacket? packet = .ok c ↔ ¬packet.Unchecked := by
  have unfaulted : c.onPacket? packet = .ok (c.onPacket packet) := by
    simp only [onPacket?, mtuFault_foreign names foreign, Bool.false_eq_true, if_false]
  rw [unfaulted, Except.ok.injEq]
  constructor
  · intro same unchecked
    exact onPacket_unchecked client names foreign unchecked (by rw [same])
  · exact onPacket_foreign names foreign

/-- A host of another connection asks a link with a subscribed client for the version. -/
theorem onPacket_foreign_iff_written :
    let c := Input.session.foldl step
      (.create .standard (.stepping 0 1) "card" [1, 2, 3, 4, 5, 6] true)
    let packet : EventPacket := ⟨[0x04, 0xFF, 0x0D, 0x01, 0x0C, 0x99, 0x09, 0x71, 0x00, 0x00, 0x00,
      0x03, 0x00, 0x00, 0x00, 0x00]⟩
    (c.connection.isConnected = true ∧ packet.Names 0x0999 ∧ 0x0999 ≠ c.connection.handle) ∧
      (c.onPacket? packet = .ok c ↔ ¬packet.Unchecked) := by
  intro c packet
  have client : c.connection.isConnected = true := by decide +kernel
  have names : packet.Names 0x0999 := .vendor rfl
  have foreign : 0x0999 ≠ c.connection.handle := by decide +kernel
  exact ⟨⟨client, names, foreign⟩, onPacket_foreign_iff client names foreign⟩

/-- Another connection is lost, or gets new parameters: the current one is dropped, or takes its
name. -/
theorem foreign_events_taken :
    let initial := create .standard (.stepping 0 1) "card" [1, 2, 3, 4, 5, 6] true
    let c := Input.session.foldl step initial
    let lost : EventPacket := ⟨[0x04, 0x05, 0x04, 0x00, 0x99, 0x09, 0x13]⟩
    let updated : EventPacket := ⟨[0x04, 0x3E, 0x0A, 0x03, 0x00, 0x99, 0x09, 0x18, 0x00, 0x00, 0x00,
      0xF4, 0x01]⟩
    (∃ past, Run initial past c) ∧ c.connection.handle = 0x0801 ∧
      lost.Names 0x0999 ∧ c.onPacket? lost ≠ .ok c ∧
      updated.Names 0x0999 ∧ c.onPacket? updated ≠ .ok c := by
  intro initial c lost updated
  have changed {packet : EventPacket}
      (other : (c.onPacket? packet).toOption.map (·.connection.handle) ≠
        some c.connection.handle) : c.onPacket? packet ≠ .ok c := by
    intro same
    exact other (by rw [same]; rfl)
  exact ⟨Run.script initial Input.session, by decide +kernel, .disconnected rfl,
    changed (by decide +kernel), .updated rfl rfl, changed (by decide +kernel)⟩

end Controller.Core

end CardLink
