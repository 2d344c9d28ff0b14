import CardLink.Packet.Event

namespace CardLink.EventPacket

variable {packet : EventPacket}

theorem kind_of_disconnection (code : packet.code = EventCode.disconnectionComplete) :
    packet.kind = .asynchronous := by
  simp only [kind, code]
  rfl

theorem kind_of_encryption (code : packet.code = EventCode.encryptionChange) :
    packet.kind = .asynchronous := by
  simp only [kind, code]
  rfl

theorem kind_of_vendor (code : packet.code = EventCode.vendor) : packet.kind = .asynchronous := by
  simp only [kind, code]
  rfl

theorem kind_of_leMeta (code : packet.code = EventCode.leMeta) :
    packet.kind = .leMeta (packet.params.head?.getD 0) := by
  simp only [kind, code]
  rfl

theorem code_of_vendorEvent {event : VendorEvent}
    (named : packet.vendorCode.bind VendorEvent.ofCode? = some event) :
    packet.code = EventCode.vendor := by
  unfold vendorCode at named
  split at named
  · assumption
  · cases named

/-- A packet is taken as it came. -/
theorem eq_of_parsed {raw : List UInt8} (parsed : parse raw = .ok packet) : packet = ⟨raw⟩ := by
  unfold parse at parsed
  split at parsed
  · split at parsed
    · cases parsed
      rfl
    · cases parsed
  · cases parsed

/-- A packet is refused for its form alone. -/
theorem malformed_of_refused {raw : List UInt8} {error : CommandError}
    (refused : parse raw = .error error) : error = .malformed := by
  unfold parse at refused
  split at refused
  · split at refused <;> cases refused
    rfl
  · cases refused
    rfl

end CardLink.EventPacket
