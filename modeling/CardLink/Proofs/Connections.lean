import CardLink.Proofs.Legacy.Authority

namespace CardLink

variable {kind : LinkKind}

namespace Endpoint

/-- Nothing is being received or sent, no message waits to be handed over and no reply is held. -/
structure Rested (e : Endpoint kind) : Prop where
  expected : e.session.expected = 0
  remaining : e.session.remaining = 0
  unready : e.takeComplete.1 = none
  free : e.isSending = false
  held : e.held = none

theorem reset_rested (e : Endpoint kind) : e.reset.Rested := ⟨rfl, rfl, rfl, rfl, rfl⟩

end Endpoint

namespace Legacy

namespace Core

/-- The replies to the host that wait to be notified. -/
def notices (c : Core) : List (List UInt8) :=
  c.actions.filterMap fun
    | .notify chunk => some chunk
    | .writeResponse .. | .powerCycle => none

/-- No exchange is under way and no reply waits. -/
structure Rested (c : Core) : Prop where
  endpoint : c.endpoint.Rested
  notices : c.notices = []

/-- Something of an exchange may come of the input: the host writes, or the link serves the
endpoint. -/
def Touches (c : Core) : Input → Prop
  | .packet packet =>
    packet.vendorCode.bind VendorEvent.ofCode? = some .writePermitRequest ∧ c.established = true
  | .feed _ | .serve _ => True
  | _ => False

/-- The client is gone or is given up, or the link is reset. -/
def Clears (c : Core) : Input → Prop
  | .packet packet => packet.code = EventCode.disconnectionComplete
  | .tick => (c.connectTimeout.tick c.tick).phase = .expired
  | .resetLink => True
  | _ => False

theorem resetLink_rested (c : Core) : c.resetLink.Rested := ⟨c.endpoint.reset_rested, rfl⟩

theorem restartLink_rested (c : Core) : c.restartLink.Rested := ⟨c.endpoint.reset_rested, rfl⟩

theorem push_rested {c : Core} {action : Action} (rested : c.Rested)
    (other : ∀ chunk, action ≠ .notify chunk) : (c.push action).Rested := by
  have none := rested.notices
  unfold notices at none
  unfold push
  split
  · refine ⟨rested.endpoint, ?_⟩
    rw [notices, List.filterMap_append, none]
    cases action with
    | notify chunk => exact absurd rfl (other chunk)
    | writeResponse | powerCycle => rfl
  · exact rested

theorem onLeMeta_rested_iff (c : Core) (params : List UInt8) :
    (c.onLeMeta params).Rested ↔ c.Rested := by
  have same : (c.onLeMeta params).endpoint = c.endpoint ∧
      (c.onLeMeta params).actions = c.actions := by
    unfold onLeMeta
    split
    · split <;> exact ⟨rfl, rfl⟩
    · exact ⟨rfl, rfl⟩
  obtain ⟨endpoint, actions⟩ := same
  constructor
  · rintro ⟨rested, none⟩
    exact ⟨endpoint ▸ rested, by rwa [notices, actions] at none⟩
  · rintro ⟨rested, none⟩
    exact ⟨endpoint ▸ rested, by rwa [notices, actions]⟩

theorem onVendor_rested {c : Core} {packet : EventPacket} (untouched : ¬c.Touches (.packet packet))
    (rested : c.Rested) : (c.onVendor packet).Rested := by
  unfold onVendor
  match named : packet.vendorCode.bind VendorEvent.ofCode? with
  | some .attributeModified =>
    dsimp only
    unfold onAttributeModified
    split
    · split
      · exact ⟨rested.endpoint, rested.notices⟩
      · exact rested
    · exact rested
  | some .writePermitRequest =>
    -- The client has not subscribed: the write is answered and goes no further.
    have unestablished : c.established = false :=
      Bool.eq_false_iff.mpr fun established => untouched ⟨named, established⟩
    dsimp only
    unfold onWritePermit
    split
    · simp only [unestablished, Bool.false_eq_true, and_false, if_false]
      exact push_rested rested fun _ => nofun
    · exact rested
  | some .txPoolAvailable => exact ⟨rested.endpoint, rested.notices⟩
  | some .pairingComplete | some .passKeyRequest | some .numericComparison
  | some .connectionUpdateResponse | some .procedureTimeout | some .exchangeMtuResponse
  | some .indication | none => exact rested

/-- A link at rest stays so as long as nothing of an exchange comes in. -/
theorem step_rested {c : Core} {input : Input} (untouched : ¬c.Touches input)
    (rested : c.Clears input ∨ c.Rested) : (c.step input).Rested := by
  cases input with
  | packet packet =>
    simp only [step, onPacket]
    split
    · exact c.restartLink_rested
    · rename_i linked
      have rested := rested.resolve_left linked
      split
      · exact (c.onLeMeta_rested_iff _).mpr rested
      · split
        · exact onVendor_rested untouched rested
        · exact rested
  | tick =>
    simp only [step, onTick]
    split
    · exact restartLink_rested _
    · rename_i timely
      have rested := rested.resolve_left timely
      exact ⟨rested.endpoint, rested.notices⟩
  | resetLink => exact c.resetLink_rested
  | setHandles | clearPool =>
    have rested := rested.resolve_left id
    exact ⟨rested.endpoint, rested.notices⟩
  | nextAction =>
    have rested := rested.resolve_left id
    simp only [step, nextAction]
    split
    · exact rested
    · rename_i action rest queued
      refine ⟨rested.endpoint, ?_⟩
      have none := rested.notices
      rw [notices, queued, List.filterMap_eq_nil_iff] at none
      rw [notices, List.filterMap_eq_nil_iff]
      exact fun action member => none action (List.mem_cons_of_mem _ member)
  | feed | serve => exact absurd trivial untouched

end Core

/-- Something of an exchange may have come in since the client was gone, or the link was reset. -/
def Touched (past : List (Core × Input)) : Prop :=
  Since (fun e => e.1.Touches e.2) (fun e => e.1.Clears e.2) past

theorem Run.rested {settings : Settings} {past : List (Core × Input)} {c : Core}
    (run : Run (.create settings) past c) (untouched : ¬Touched past) : c.Rested := by
  unfold Touched at untouched
  induction run with
  | start => exact ⟨⟨rfl, rfl, rfl, rfl, rfl⟩, rfl⟩
  | @next past c run input ih =>
    rw [since_append] at untouched
    refine Core.step_rested (fun touches => untouched (.inl touches)) ?_
    by_cases clears : c.Clears input
    · exact .inl clears
    · exact .inr (ih fun since => untouched (.inr ⟨since, clears⟩))

end Legacy

namespace Controller

/-- Nothing of an exchange is under way or waits. -/
structure Exchange.Rested (x : Exchange) : Prop where
  endpoint : x.endpoint.Rested
  pending : x.pending = none
  txData : x.txData = []
  unsent : x.chunkInFlight = false
  acknowledged : x.awaitingWriteAck = false

theorem Exchange.severed_rested (x : Exchange) (layout : Layout .negotiated)
    (notices : List (List UInt8)) :
    ({ x.severed layout with notices := notices } : Exchange).Rested :=
  ⟨⟨rfl, rfl, rfl, rfl, rfl⟩, rfl, rfl, rfl, rfl⟩

/-- A client has connected, in the plain or the enhanced form of the event. -/
def Connects (packet : EventPacket) : Prop :=
  packet.code = EventCode.leMeta ∧ ∃ code rest, packet.params = code :: 0x00 :: rest ∧
    (LeEvent.ofCode? code = some .connectionComplete ∨
      LeEvent.ofCode? code = some .enhancedConnectionComplete)

namespace Core

theorem onPacket_connects {c : Core} {packet : EventPacket} (connects : Connects packet) :
    ∃ layout, (c.onPacket packet).exchange =
      { c.exchange.severed layout with notices := c.notices } := by
  obtain ⟨code, event, rest, params, named⟩ := connects
  have kind := EventPacket.kind_of_leMeta code
  refine ⟨c.endpoint.layout.resetMtu c.settings.initialChunkLength, ?_⟩
  simp only [onPacket, kind, onLeMeta, params]
  rcases named with named | named <;> simp only [List.head?_cons, Option.bind_some, named] <;> rfl

theorem onDisconnect_exchange (c : Core) (params : List UInt8) :
    ∃ layout, (c.onDisconnect params).exchange =
      { c.exchange.severed layout with
        notices := if params[3]?.getD 0 = reasonInstantPassed then [] else c.notices } := by
  simp only [onDisconnect]
  split
  · exact ⟨_, beginInit_exchange _⟩
  · exact ⟨c.endpoint.layout, startAdvertising_exchange _⟩

end Core

end Controller

/-- A disconnection leaves nothing of an exchange behind on either link, and neither does a new
connection on the newer one. On the legacy link a new connection goes on with whatever it finds:
nothing, as long as nothing of an exchange has come in since the link was cleared. Notifications
that the newer link has queued for the controller are not taken back, unless everything starts
over. -/
theorem connections_rested {settings : Settings} {past : List (Legacy.Core × Legacy.Input)}
    {l : Legacy.Core} (run : Legacy.Run (.create settings) past l) (c : Controller.Core)
    (packet : EventPacket) :
    (packet.code = EventCode.disconnectionComplete →
      ((l.step (.packet packet)).Rested ∧ (l.step (.packet packet)).actions = [.powerCycle]) ∧
      (c.step (.packet packet)).exchange.Rested ∧
        (c.step (.packet packet)).notices =
          if packet.params[3]?.getD 0 = Controller.Core.reasonInstantPassed then []
          else c.notices) ∧
    (Legacy.Core.Connects packet →
      ((l.step (.packet packet)).Rested ↔ l.Rested) ∧
        (¬Legacy.Touched past → (l.step (.packet packet)).Rested)) ∧
    (Controller.Connects packet →
      (c.step (.packet packet)).exchange.Rested ∧
        (c.step (.packet packet)).notices = c.notices) := by
  refine ⟨fun code => ⟨?_, ?_⟩, fun connects => ?_, fun connects => ?_⟩
  · have reached : l.step (.packet packet) = l.restartLink := by
      simp only [Legacy.Core.step, Legacy.Core.onPacket, code, if_true]
    rw [reached]
    exact ⟨l.restartLink_rested, rfl⟩
  · have kind := EventPacket.kind_of_disconnection code
    have reached : c.step (.packet packet) = c.onDisconnect packet.params := by
      simp only [Controller.Core.step, Controller.Core.onPacket, kind, code, if_true]
    obtain ⟨layout, severed⟩ := c.onDisconnect_exchange packet.params
    rw [reached]
    exact ⟨severed ▸ Controller.Exchange.severed_rested c.exchange layout _,
      congrArg Controller.Exchange.notices severed⟩
  · have reached : l.step (.packet packet) = l.onLeMeta packet.params := by
      simp only [Legacy.Core.step, Legacy.Core.onPacket, connects.1]
      rfl
    rw [reached, l.onLeMeta_rested_iff]
    exact ⟨Iff.rfl, run.rested⟩
  · obtain ⟨layout, severed⟩ := Controller.Core.onPacket_connects (c := c) connects
    exact ⟨severed ▸ Controller.Exchange.severed_rested c.exchange layout c.notices,
      congrArg Controller.Exchange.notices severed⟩

/-- The first part of a message is in when the client is lost or connects anew. -/
theorem connections_rested_partial :
    let part : List UInt8 := [0x05, 0x00, 0x00, 0x00, 0x05, 0xAA]
    let again : EventPacket := ⟨[0x04, 0x3E, 0x04, 0x01, 0x00, 0x02, 0x08]⟩
    let lost : EventPacket := ⟨[0x04, 0x05, 0x04, 0x00, 0x01, 0x08, 0x13]⟩
    let legacy := (Legacy.Core.create .standard).step (.feed part)
    let gone := legacy.step (.packet lost)
    let linked := (Controller.Input.session ++ [Controller.Input.modified 0x71 part]).foldl
      Controller.Core.step (.create .standard (.stepping 0 1) "card" [1, 2, 3, 4, 5, 6] true)
    (legacy.endpoint.session.expected = 1 ∧ gone.Rested ∧ (gone.step (.packet again)).Rested) ∧
    linked.exchange.endpoint.session.expected = 1 ∧
      (linked.step (.packet again)).exchange.Rested ∧
      (linked.step (.packet lost)).exchange.Rested := by
  intro part again lost legacy gone linked
  have run : Legacy.Run (.create .standard) _ legacy := .next .start _
  have untouched : ¬Legacy.Touched
      ([(.create .standard, .feed part)] ++ [(legacy, .packet lost)]) := by
    rw [Legacy.Touched, since_append]
    rintro (⟨permit, -⟩ | ⟨-, kept⟩)
    · exact absurd permit (by decide)
    · exact kept (by decide : lost.code = EventCode.disconnectionComplete)
  have connects : Legacy.Core.Connects again := ⟨by decide, _, _, _, _, rfl, by decide⟩
  have connects' : Controller.Connects again := ⟨by decide, _, _, rfl, .inl (by decide)⟩
  have left := (connections_rested run linked lost).1 (by decide)
  have joined := (connections_rested (run.next (.packet lost)) linked again).2
  exact ⟨⟨by decide +kernel, left.1.1, (joined.1 connects).2 untouched⟩,
    by decide +kernel, (joined.2 connects').1, left.2.1⟩

/-- A client that has subscribed on the legacy link writes a part of a message, or a whole one, and
connects anew without having been lost: the link waits for the rest, or still has the message. -/
theorem connection_goes_on :
    let write (chunk : List UInt8) : Legacy.Input :=
      .packet ⟨[0x04, 0xFF, UInt8.ofNat (7 + chunk.length), 0x13, 0x0C, 0x01, 0x08, 0x21, 0x00,
        UInt8.ofNat chunk.length] ++ chunk⟩
    let again : EventPacket := ⟨[0x04, 0x3E, 0x04, 0x01, 0x00, 0x02, 0x08]⟩
    let initial := Legacy.Core.create .standard
    let linked := (initial.step (.setHandles { service := 1, tx := 16, rx := 32 })).step
      (.packet ⟨[0x04, 0x3E, 0x04, 0x01, 0x00, 0x01, 0x08]⟩)
    let subscribed := linked.step (.packet
      ⟨[0x04, 0xFF, 0x0B, 0x01, 0x0C, 0x01, 0x08, 0x12, 0x00, 0x02, 0x00, 0x00, 0x01, 0x00]⟩)
    let part := (subscribed.step (write [0x05, 0x00, 0x00, 0x00, 0x05, 0xAA])).step (.packet again)
    let whole := (subscribed.step (write [0x05, 0x00, 0x00, 0x00, 0x01, 0xAA])).step (.packet again)
    (∃ past, Legacy.Run initial past subscribed) ∧ Legacy.Core.Connects again ∧
      part.connection = some 0x0802 ∧ part.endpoint.session.expected = 1 ∧
      part.endpoint.session.remaining = 4 ∧
      whole.connection = some 0x0802 ∧ whole.endpoint.takeComplete.1 = some 1 := by
  intro write again initial linked subscribed part whole
  have run : Legacy.Run initial _ linked := .next (.next .start _) _
  refine ⟨⟨_, run.next _⟩, ⟨by decide, _, _, _, _, rfl, by decide⟩, ?_, ?_, ?_, ?_, ?_⟩
  all_goals decide +kernel

end CardLink
