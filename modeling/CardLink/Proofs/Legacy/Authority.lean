import CardLink.Legacy.Core
import CardLink.Proofs.Controller.Authority

namespace CardLink

namespace Legacy

/-- Everything that can happen to the event side of the legacy link. -/
inductive Input where
  | packet (packet : EventPacket)
  | tick
  | resetLink
  /-- The setup has learnt new handles. -/
  | setHandles (handles : Handles)
  | nextAction
  | feed (chunk : List UInt8)
  /-- The link is about to write a notification. -/
  | clearPool
  /-- The link sends or polls; what that makes of the endpoint is left open. -/
  | serve (endpoint : Endpoint .legacy)

namespace Core

def step (c : Core) : Input → Core
  | .packet packet => c.onPacket packet
  | .tick => c.onTick
  | .resetLink => c.resetLink
  | .setHandles handles => { c with handles := handles }
  | .nextAction => c.nextAction.2
  | .feed chunk => c.feed chunk
  | .clearPool => { c with txPoolAvailable := false }
  | .serve endpoint => { c with endpoint := endpoint }

/-- A client has connected. An event that is too short for its handle is none. -/
def Connects (packet : EventPacket) : Prop :=
  packet.code = EventCode.leMeta ∧ ∃ code low high rest,
    packet.params = code :: 0x00 :: low :: high :: rest ∧
      LeEvent.ofCode? code = some .connectionComplete

/-- A client has connected anew, is gone or is given up, or the link is reset. -/
def Severs (c : Core) : Input → Prop
  | .packet packet => packet.code = EventCode.disconnectionComplete ∨ Connects packet
  | .tick => (c.connectTimeout.tick c.tick).phase = .expired
  | .resetLink => True
  | _ => False

/-- The client has written the subscription. -/
def Subscribes (c : Core) : Input → Prop
  | .packet packet => packet.vendorCode.bind VendorEvent.ofCode? = some .attributeModified ∧
      ∃ conn conn' low high length offset offset' rest,
        packet.vendorData = conn :: conn' :: low :: high :: length :: offset :: offset' :: rest ∧
          Word.join high low = c.handles.tx + 2 ∧ rest.take length.toNat = subscription
  | _ => False

theorem push_established (c : Core) (action : Action) :
    (c.push action).established = c.established := by
  unfold push
  split <;> rfl

theorem feed_established (c : Core) (chunk : List UInt8) :
    (c.feed chunk).established = c.established := by
  unfold feed
  split
  · exact push_established _ _
  · rfl
  · rfl
  · split
    · rfl
    · split
      · exact push_established _ _
      · rfl

theorem onWritePermit_established (c : Core) (data : List UInt8) :
    (c.onWritePermit data).established = c.established := by
  unfold onWritePermit
  split
  · simp only [push_established]
    split
    · exact feed_established c _
    · rfl
  · rfl

theorem onLeMeta_established (c : Core) {packet : EventPacket}
    (code : packet.code = EventCode.leMeta) : (c.onLeMeta packet.params).established = true ↔
      c.established = true ∧ ¬Connects packet := by
  have connects : Connects packet ↔ ∃ code low high rest,
      packet.params = code :: 0x00 :: low :: high :: rest ∧
        LeEvent.ofCode? code = some .connectionComplete := and_iff_right code
  rw [connects]
  unfold onLeMeta
  split
  · rename_i event status low high rest shape
    rw [shape]
    split
    · rename_i success
      obtain ⟨event, rfl⟩ := success
      exact iff_of_false nofun fun kept => kept.2 ⟨_, _, _, _, rfl, event⟩
    · rename_i other
      refine (and_iff_left ?_).symm
      rintro ⟨_, _, _, _, same, event⟩
      cases same
      exact other ⟨event, rfl⟩
  · rename_i short
    refine (and_iff_left ?_).symm
    rintro ⟨_, _, _, _, same, -⟩
    exact short _ _ _ _ _ same

theorem onAttributeModified_established (c : Core) (data : List UInt8) :
    (c.onAttributeModified data).established = true ↔ c.established = true ∨
      ∃ conn conn' low high length offset offset' rest,
        data = conn :: conn' :: low :: high :: length :: offset :: offset' :: rest ∧
          Word.join high low = c.handles.tx + 2 ∧ rest.take length.toNat = subscription := by
  unfold onAttributeModified
  split
  · rename_i conn conn' low high length offset offset' rest
    split
    · rename_i subscribed
      exact iff_of_true rfl (.inr ⟨_, _, _, _, _, _, _, _, rfl, subscribed⟩)
    · rename_i other
      refine (or_iff_left ?_).symm
      rintro ⟨_, _, _, _, _, _, _, _, same, subscribed⟩
      cases same
      exact other subscribed
  · rename_i short
    refine (or_iff_left ?_).symm
    rintro ⟨_, _, _, _, _, _, _, _, same, -⟩
    exact short _ _ _ _ _ _ _ _ same

theorem onPacket_established (c : Core) (packet : EventPacket) :
    (c.onPacket packet).established = true ↔
      c.Subscribes (.packet packet) ∨ c.established = true ∧ ¬c.Severs (.packet packet) := by
  have foreign (other : packet.code ≠ EventCode.vendor) : ¬c.Subscribes (.packet packet) :=
    fun subscribes => other (EventPacket.code_of_vendorEvent subscribes.1)
  unfold onPacket
  split
  · rename_i code
    have unsubscribed := foreign (by rw [code]; decide)
    have severs : c.Severs (.packet packet) := .inl code
    simp only [unsubscribed, severs, not_true_eq_false, and_false, or_self, iff_false]
    exact ne_true_of_eq_false (push_established _ _)
  · rename_i linked
    split
    · rename_i code
      have unsubscribed := foreign (by rw [code]; decide)
      rw [onLeMeta_established c code]
      simp only [unsubscribed, Severs, linked, false_or]
    · rename_i other
      have kept : ¬c.Severs (.packet packet) :=
        fun severs => severs.elim linked fun connects => other connects.1
      simp only [kept, not_false_eq_true, and_true]
      split
      · unfold onVendor Subscribes
        match named : packet.vendorCode.bind VendorEvent.ofCode? with
        | some .attributeModified =>
          simp only [named, true_and]
          rw [onAttributeModified_established, or_comm]
        | some .writePermitRequest => simp [named, onWritePermit_established]
        | some .txPoolAvailable | some .pairingComplete | some .passKeyRequest
        | some .numericComparison | some .connectionUpdateResponse | some .procedureTimeout
        | some .exchangeMtuResponse | some .indication | none => simp [named]
      · rename_i code
        exact (or_iff_right (foreign code)).symm

/-- The client counts as subscribed once it has written the subscription, until it is severed. -/
theorem step_established (c : Core) (input : Input) : (c.step input).established = true ↔
    c.Subscribes input ∨ c.established = true ∧ ¬c.Severs input := by
  cases input with
  | packet packet => exact onPacket_established c packet
  | tick =>
    simp only [step, onTick, Subscribes, Severs, false_or]
    split
    · rename_i late
      simp only [late, not_true_eq_false, and_false, iff_false]
      exact ne_true_of_eq_false (push_established _ _)
    · rename_i timely
      simp only [timely, not_false_eq_true, and_true]
  | resetLink => simp [step, resetLink, Subscribes, Severs]
  | setHandles | clearPool | serve => simp [step, Subscribes, Severs]
  | nextAction =>
    simp only [step, nextAction, Subscribes, Severs, not_false_eq_true, and_true, false_or]
    split <;> rfl
  | feed chunk => simp [step, feed_established, Subscribes, Severs]

/-- The write of a client that has not subscribed is answered and goes no further. -/
theorem onPacket_unestablished {c : Core} {packet : EventPacket}
    (asks : packet.vendorCode.bind VendorEvent.ofCode? = some .writePermitRequest)
    (unestablished : c.established = false) :
    (c.onPacket packet).endpoint = c.endpoint ∧
      (c.onPacket packet).connectTimeout = c.connectTimeout := by
  have code := EventPacket.code_of_vendorEvent asks
  have reached : c.onPacket packet = c.onWritePermit packet.vendorData := by
    simp only [onPacket, onVendor, code, asks]
    rfl
  rw [reached]
  unfold onWritePermit push
  split
  · simp only [unestablished, Bool.false_eq_true, and_false, if_false]
    split <;> exact ⟨rfl, rfl⟩
  · exact ⟨rfl, rfl⟩

end Core

/-- The inputs from the start on, each with the state that it met. -/
inductive Run (initial : Core) : List (Core × Input) → Core → Prop
  | start : Run initial [] initial
  | next {past : List (Core × Input)} {c : Core} (run : Run initial past c) (input : Input) :
      Run initial (past ++ [(c, input)]) (c.step input)

/-- The client has written the subscription since it connected. -/
def Subscribed (past : List (Core × Input)) : Prop :=
  Since (fun e => e.1.Subscribes e.2) (fun e => e.1.Severs e.2) past

theorem Run.established_iff {settings : Settings} {past : List (Core × Input)} {c : Core}
    (run : Run (.create settings) past c) : c.established = true ↔ Subscribed past := by
  unfold Subscribed
  induction run with
  | start => exact iff_of_false nofun not_since_nil
  | next _ input ih => rw [since_append, ← ih, Core.step_established]

end Legacy

/-- The bytes of a host reach an endpoint only where the host has been authorized: on the newer
link it has subscribed and the connection is encrypted, on the legacy link it has subscribed. Any
other write of a host leaves the endpoint as it is. -/
theorem host_writes_authorized :
    (∀ {settings : Settings} {random : RandomSource} {name : String} {address : List UInt8}
      {planeMode : Bool} {past : List (Controller.Core × Controller.Input)}
      {c : Controller.Core},
      Controller.Run (.create settings random name address planeMode) past c →
      (∀ input permit value, c.effect input = .written permit value →
        Controller.Subscribed past ∧ Controller.Encrypted past) ∧
      ∀ packet, Controller.HostWrites packet →
        (∀ permit value, c.effect (.packet packet) ≠ .written permit value) →
        ∃ on waits notices, notices <:+ c.notices ∧ (c.step (.packet packet)).exchange =
          { c.exchange with
            notifications := on, awaitingWriteAck := waits, notices := notices }) ∧
    ∀ {settings : Settings} {past : List (Legacy.Core × Legacy.Input)} {c : Legacy.Core},
      Legacy.Run (.create settings) past c →
      ∀ packet, packet.vendorCode.bind VendorEvent.ofCode? = some .writePermitRequest →
        ¬Legacy.Subscribed past →
        (c.step (.packet packet)).endpoint = c.endpoint ∧
          (c.step (.packet packet)).connectTimeout = c.connectTimeout := by
  constructor
  · intro settings random name address planeMode past c run
    exact ⟨fun input permit value written => run.authorized_of_written written,
      fun packet writes unwritten => Controller.Core.step_unwritten writes unwritten⟩
  · intro settings past c run packet asks unsubscribed
    refine Legacy.Core.onPacket_unestablished asks ?_
    rw [← Bool.not_eq_true, run.established_iff]
    exact unsubscribed

/-- A client that has subscribed on an encrypted connection writes a version request; the same
request asks for a permit before the encryption, and on a legacy link before the subscription. -/
theorem host_writes_authorized_requests :
    let created := Controller.Core.create .standard (.stepping 0 1) "card" [1, 2, 3, 4, 5, 6] true
    let linked := Controller.Input.session.foldl Controller.Core.step created
    let bare := (Controller.Input.session.take 32).foldl Controller.Core.step created
    let legacy := (Legacy.Core.create .standard).step
      (.packet ⟨[0x04, 0x3E, 0x04, 0x01, 0x00, 0x01, 0x08]⟩)
    let asks : EventPacket := ⟨[0x04, 0xFF, 0x08, 0x13, 0x0C, 0x01, 0x08, 0x61, 0x00, 0x01, 0x00]⟩
    (∃ past, Controller.Run created past linked ∧
      linked.effect (.modified 0x71 [0x00]) = .written false [0x00] ∧
      Controller.Subscribed past ∧ Controller.Encrypted past) ∧
    (∃ past, Controller.Run created past bare ∧ Controller.HostWrites asks ∧
      ∃ on waits notices, notices <:+ bare.notices ∧ (bare.step (.packet asks)).exchange =
        { bare.exchange with
          notifications := on, awaitingWriteAck := waits, notices := notices }) ∧
    ∃ past, Legacy.Run (.create .standard) past legacy ∧ legacy.connection = some 0x0801 ∧
      ¬Legacy.Subscribed past ∧ (legacy.step (.packet asks)).endpoint = legacy.endpoint ∧
        (legacy.step (.packet asks)).connectTimeout = legacy.connectTimeout := by
  intro created linked bare legacy asks
  refine ⟨?_, ?_, ?_⟩
  · obtain ⟨past, run⟩ := Controller.Run.script created Controller.Input.session
    have written : linked.effect (.modified 0x71 [0x00]) = .written false [0x00] := by
      decide +kernel
    exact ⟨past, run, written, (host_writes_authorized.1 run).1 _ _ _ written⟩
  · obtain ⟨past, run⟩ := Controller.Run.script created (Controller.Input.session.take 32)
    have writes : Controller.HostWrites asks := by
      refine ⟨?_, .inr ?_⟩ <;> decide
    have passed : bare.effect (.packet asks) = .permitted := by decide +kernel
    exact ⟨past, run, writes, (host_writes_authorized.1 run).2 asks writes fun _ _ written =>
      absurd (passed.symm.trans written) nofun⟩
  · have run : Legacy.Run (.create .standard) _ legacy := .next .start _
    have unsubscribed := (not_congr run.established_iff).mp (by decide +kernel)
    exact ⟨_, run, by decide +kernel, unsubscribed,
      host_writes_authorized.2 run asks (by decide) unsubscribed⟩

end CardLink
