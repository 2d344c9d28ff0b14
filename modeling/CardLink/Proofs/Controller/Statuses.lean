import CardLink.Proofs.Controller.Foreign

namespace CardLink

/-- What is reported of a link. -/
inductive LinkReport where
  | connection
  | enhancedConnection
  | update
  | phyUpdate
  | encryption
  | disconnection
  deriving DecidableEq, Repr

/-- The LE meta event that brings a report, if it is one. -/
def LinkReport.leEvent? : LinkReport → Option LeEvent
  | connection => some .connectionComplete
  | enhancedConnection => some .enhancedConnectionComplete
  | update => some .connectionUpdateComplete
  | phyUpdate => some .phyUpdateComplete
  | encryption | disconnection => none

/-- What a packet reports, with the status in the place that its kind has for it. -/
inductive EventPacket.Reports (p : EventPacket) : LinkReport → UInt8 → Prop
  | le {report : LinkReport} {event : LeEvent} {status : UInt8}
      (code : p.code = EventCode.leMeta) (named : p.params.head?.bind LeEvent.ofCode? = some event)
      (kind : report.leEvent? = some event) (placed : p.params[1]? = some status) :
      Reports p report status
  | encrypted {status : UInt8} (code : p.code = EventCode.encryptionChange)
      (placed : p.params[0]? = some status) : Reports p .encryption status
  | disconnected {status : UInt8} (code : p.code = EventCode.disconnectionComplete)
      (placed : p.params[0]? = some status) : Reports p .disconnection status

namespace Controller

/-- The record has nothing to learn from a report that has failed: of a connection it learns
nothing, and of everything else what it would learn from a success. -/
def Connection.Knows (record : Connection) (params : List UInt8) : LinkReport → Prop
  | .connection | .enhancedConnection => True
  | .update => record.handle = Word.littleAt params 2 ∧ record.interval = Word.littleAt params 4 ∧
      record.latency = Word.littleAt params 6 ∧ record.supervisionTimeout = Word.littleAt params 8
  | .phyUpdate => Word.littleAt params 2 = record.handle →
      record.txPhy = params[4]?.getD 0 ∧ record.rxPhy = params[5]?.getD 0
  | .encryption => Word.littleAt params 1 = record.handle →
      record.encrypted = (params[3]?.getD 0 != 0)
  | .disconnection => record = {}

namespace Core

variable (c : Core) {packet : EventPacket} {report : LinkReport} {status : UInt8}

theorem onPacket?_of_code (other : packet.code ≠ EventCode.vendor) :
    c.onPacket? packet = .ok (c.onPacket packet) := by
  have unfaulted : c.mtuFault packet = false := by
    simp [mtuFault, EventPacket.vendorCode, other]
  simp only [onPacket?, unfaulted, Bool.false_eq_true, if_false]

theorem onPacket_le (code : packet.code = EventCode.leMeta) :
    c.onPacket packet = c.onLeMeta packet.params := by
  simp only [onPacket, EventPacket.kind_of_leMeta code]

theorem onPacket_encryption (code : packet.code = EventCode.encryptionChange) :
    c.onPacket packet = c.onEncryptionChange packet.params := by
  simp only [onPacket, EventPacket.kind_of_encryption code, code]
  rfl

theorem onPacket_disconnection (code : packet.code = EventCode.disconnectionComplete) :
    c.onPacket packet = c.onDisconnect packet.params := by
  simp only [onPacket, EventPacket.kind_of_disconnection code, code, if_true]

theorem onConnectionUpdate_keeps_iff (params : List UInt8) :
    (c.onConnectionUpdate params).connection = c.connection ↔ c.connection.Knows params .update := by
  simp only [onConnectionUpdate, Connection.Knows]
  cases c.connection
  simp only [Connection.mk.injEq, and_true, eq_comm]

theorem onPhyUpdate_keeps_iff (params : List UInt8) :
    (c.onPhyUpdate params).connection = c.connection ↔
      c.connection.Knows params .phyUpdate := by
  simp only [onPhyUpdate, Connection.Knows]
  split
  · rename_i own
    simp only [own, true_imp_iff]
    cases c.connection
    simp only [Connection.mk.injEq, true_and, eq_comm]
  · rename_i foreign
    exact iff_of_true rfl fun own => absurd own foreign

theorem onEncryptionChange_keeps_iff (params : List UInt8) :
    (c.onEncryptionChange params).connection = c.connection ↔
      c.connection.Knows params .encryption := by
  simp only [onEncryptionChange, Connection.Knows]
  split
  · rename_i own
    simp only [own, true_imp_iff]
    cases c.connection
    simp only [Connection.mk.injEq, true_and, and_true, eq_comm]
  · rename_i foreign
    exact iff_of_true rfl fun own => absurd own foreign

/-- A report that has failed leaves the record alone just if the record has nothing to learn from
it. A link comes to be marked as encrypted just by a failed change of its own encryption. -/
theorem failed_report_keeps_iff (reports : packet.Reports report status) (failed : status ≠ 0) :
    ∃ after, c.onPacket? packet = .ok after ∧
      (after.connection = c.connection ↔ c.connection.Knows packet.params report) ∧
      (c.connection.encrypted = false → (after.connection.encrypted = true ↔
        report = .encryption ∧ Word.littleAt packet.params 1 = c.connection.handle ∧
          packet.params[3]?.getD 0 ≠ 0)) := by
  have unfaulted {code : UInt8} (named : packet.code = code) (other : code ≠ EventCode.vendor) :=
    c.onPacket?_of_code (fun vendor => other (named.symm.trans vendor))
  cases reports with
  | @le _ event _ code named kind placed =>
    refine ⟨_, unfaulted code (by decide), ?_⟩
    rw [c.onPacket_le code, onLeMeta, named]
    cases report with
    | connection | enhancedConnection =>
      cases kind
      simp only [placed, Option.getD_some, failed, if_false, Connection.Knows, true_and]
      exact fun plain => by simp [plain]
    | update =>
      cases kind
      refine ⟨c.onConnectionUpdate_keeps_iff _, fun plain => ?_⟩
      simp [onConnectionUpdate, plain]
    | phyUpdate =>
      cases kind
      refine ⟨c.onPhyUpdate_keeps_iff _, fun plain => ?_⟩
      simp only [onPhyUpdate]
      split <;> simp [plain]
    | encryption | disconnection => cases kind
  | encrypted code =>
    refine ⟨_, unfaulted code (by decide), ?_⟩
    rw [c.onPacket_encryption code]
    refine ⟨c.onEncryptionChange_keeps_iff _, fun plain => ?_⟩
    simp only [onEncryptionChange]
    split <;> simp_all
  | disconnected code =>
    refine ⟨_, unfaulted code (by decide), ?_⟩
    rw [c.onPacket_disconnection code, c.onDisconnect_connection]
    exact ⟨eq_comm, fun _ => by simp⟩

/-- While its client is connected and subscribed, the device fails to connect to another one. -/
theorem failed_report_keeps_iff_refused :
    let c := Input.session.foldl step
      (.create .standard (.stepping 0 1) "card" [1, 2, 3, 4, 5, 6] true)
    let packet : EventPacket := ⟨[0x04, 0x3E, 0x1F, 0x0A, 0x3E, 0x02, 0x08] ++
      List.replicate 27 0x00⟩
    (packet.Reports .enhancedConnection 0x3E ∧ (0x3E : UInt8) ≠ 0) ∧
      ∃ after, c.onPacket? packet = .ok after ∧
        (after.connection = c.connection ↔
          c.connection.Knows packet.params .enhancedConnection) ∧
        (c.connection.encrypted = false → (after.connection.encrypted = true ↔
          LinkReport.enhancedConnection = .encryption ∧
            Word.littleAt packet.params 1 = c.connection.handle ∧
            packet.params[3]?.getD 0 ≠ 0)) := by
  intro c packet
  have reports : packet.Reports .enhancedConnection 0x3E := .le rfl rfl rfl rfl
  exact ⟨⟨reports, by decide⟩, c.failed_report_keeps_iff reports (by decide)⟩

/-- The record of a client that is connected and not encrypted is changed by each of four reports
that have failed. One of them marks the link as encrypted. -/
theorem failed_reports_believed :
    let initial := create .standard (.stepping 0 1) "card" [1, 2, 3, 4, 5, 6] true
    let c := (Input.session.take 32).foldl step initial
    let updated : EventPacket := ⟨[0x04, 0x3E, 0x0A, 0x03, 0x3B, 0x01, 0x08, 0x18, 0x00, 0x00, 0x00,
      0xF4, 0x01]⟩
    let rated : EventPacket := ⟨[0x04, 0x3E, 0x06, 0x0C, 0x1A, 0x01, 0x08, 0x02, 0x02]⟩
    let encrypted : EventPacket := ⟨[0x04, 0x08, 0x04, 0x06, 0x01, 0x08, 0x01]⟩
    let lost : EventPacket := ⟨[0x04, 0x05, 0x04, 0x0C, 0x01, 0x08, 0x13]⟩
    let record (packet : EventPacket) := (c.onPacket? packet).toOption.map Core.connection
    (∃ past, Run initial past c) ∧ c.connection.handle = 0x0801 ∧
      (updated.Reports .update 0x3B ∧ record updated ≠ some c.connection) ∧
      (rated.Reports .phyUpdate 0x1A ∧ record rated ≠ some c.connection) ∧
      (lost.Reports .disconnection 0x0C ∧ record lost ≠ some c.connection) ∧
      encrypted.Reports .encryption 0x06 ∧ c.connection.encrypted = false ∧
        (record encrypted).map Connection.encrypted = some true := by
  intro initial c updated rated encrypted lost record
  exact ⟨Run.script initial _, by decide +kernel, ⟨.le rfl rfl rfl rfl, by decide +kernel⟩,
    ⟨.le rfl rfl rfl rfl, by decide +kernel⟩, ⟨.disconnected rfl rfl, by decide +kernel⟩,
    .encrypted rfl rfl, by decide +kernel, by decide +kernel⟩

end Core

end Controller

end CardLink
