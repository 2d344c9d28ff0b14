import CardLink.Proofs.Legacy.Authority

namespace CardLink.Legacy

/-- The client asks for the permit to write an attribute, and waits for the response. -/
structure Permit where
  connection : UInt16
  attr : UInt16
  /-- The bytes that are there, which may be fewer than announced. -/
  value : List UInt8
  deriving DecidableEq, Repr

namespace Permit

/-- Connection, attribute, length, value. -/
def ofData? : List UInt8 → Option Permit
  | connLow :: connHigh :: attrLow :: attrHigh :: length :: rest =>
    some ⟨Word.join connHigh connLow, Word.join attrHigh attrLow, rest.take length.toNat⟩
  | _ => none

def response (p : Permit) : Action :=
  .writeResponse p.connection p.attr (p.value.take maxChunkLength)

end Permit

namespace Input

def isTick : Input → Bool
  | .tick => true
  | _ => false

def permit? : Input → Option Permit
  | .packet event =>
    if event.vendorCode.bind VendorEvent.ofCode? = some .writePermitRequest then
      Permit.ofData? event.vendorData
    else none
  | _ => none

def event (code : UInt8) (params : List UInt8) : EventPacket :=
  ⟨EventPacket.packetType :: code :: UInt8.ofNat params.length :: params⟩

/-- A client has connected. -/
def connected : EventPacket := event EventCode.leMeta (0x01 :: 0x00 :: Word.little 0x0801)

/-- The client has subscribed, where no handles have been learnt. -/
def subscribed : Input :=
  .packet (event EventCode.vendor (Word.little 0x0C01 ++ Word.little 0x0801 ++ Word.little 0x0002 ++
    [0x02, 0x00, 0x00, 0x01, 0x00]))

/-- The client asks for the permit to write a chunk, where no handles have been learnt. -/
def asked (value : List UInt8) : Input :=
  .packet (event EventCode.vendor (Word.little 0x0C13 ++ Word.little 0x0801 ++ Word.little 0x0001 ++
    UInt8.ofNat value.length :: value))

end Input

namespace Core

/-- The chunk of the host that gets to the endpoint: of the values that are written, only that of a
subscribed client to the right attribute. -/
def chunk? (c : Core) : Input → Option (List UInt8)
  | .feed chunk => some chunk
  | input => input.permit?.bind fun permit =>
    if permit.attr = c.handles.rx + 1 ∧ c.established then some permit.value else none

/-- A message of the host is complete with this chunk. -/
def isLast (c : Core) (chunk : List UInt8) : Bool :=
  match (c.endpoint.receive chunk).1 with
  | .ok (.complete _) => true
  | _ => false

def completes (c : Core) (input : Input) : Bool := (c.chunk? input).any c.isLast

/-- The control reply to a chunk of the host, if it may go out at once. -/
def reply? (c : Core) (chunk : List UInt8) : Option (List UInt8) :=
  match c.endpoint.receive chunk with
  | (.ok (.reply reply), _) => some reply
  | (.ok _, _) => none
  | (.error error, endpoint) =>
    (endpoint.errorReply error).bind fun reply => (endpoint.queueReply reply).1

/-- The actions that the client and the host give rise to: a control reply, and behind it the
response to a permit. -/
def offers (c : Core) (input : Input) : List Action :=
  ((c.chunk? input).bind c.reply?).toList.map .notify ++ input.permit?.toList.map Permit.response

/-- As many of these actions as there is room for, behind those that are queued. -/
def queued (c : Core) (actions : List Action) : List Action :=
  c.actions ++ actions.take (actionCapacity - c.actions.length)

/-- The client is gone or is given up, or the link is reset. -/
def Resets (c : Core) : Input → Prop
  | .packet packet => packet.code = EventCode.disconnectionComplete
  | .tick => (c.connectTimeout.tick c.tick).phase = .expired
  | .resetLink => True
  | _ => False

instance (c : Core) : DecidablePred c.Resets
  | .packet packet => inferInstanceAs (Decidable (packet.code = EventCode.disconnectionComplete))
  | .tick => inferInstanceAs (Decidable ((c.connectTimeout.tick c.tick).phase = .expired))
  | .resetLink => .isTrue trivial
  | .setHandles _ | .nextAction | .feed _ | .clearPool | .serve _ => .isFalse id

/-- Whatever an input makes of the core. -/
inductive Turns (c : Core) : Input → Core → Prop
  | restarted {input : Input} (resets : c.Resets input) (within : input ≠ .resetLink) :
      Turns c input c.restartLink
  | reset : Turns c .resetLink c.resetLink
  | connected {packet : EventPacket} (connects : Connects packet) (handle : UInt16) :
      Turns c (.packet packet) (c.onConnected handle)
  | ticked (timely : ¬c.Resets .tick) :
      Turns c .tick { c with connectTimeout := c.connectTimeout.tick c.tick }
  | taken : Turns c .nextAction { c with actions := c.actions.tail }
  | served {input : Input} (joined : ¬c.Severs input) (timeless : input ≠ .tick)
      (untaken : input ≠ .nextAction) (established available : Bool) (handles : Handles)
      (endpoint : Endpoint .legacy) :
      Turns c input { c with
        established := established
        txPoolAvailable := available
        handles := handles
        endpoint := endpoint
        connectTimeout := if c.completes input then c.connectTimeout.cancel else c.connectTimeout
        actions := c.queued (c.offers input) }

theorem queued_nil (c : Core) : c.queued [] = c.actions := by
  rw [queued, List.take_nil, List.append_nil]

theorem push_eq (c : Core) (action : Action) :
    c.push action = { c with actions := c.queued [action] } := by
  unfold push queued
  split
  · rename_i room
    obtain ⟨more, left⟩ := Nat.exists_eq_add_of_lt (Nat.sub_pos_of_lt room)
    rw [left, Nat.zero_add, List.take_succ_cons, List.take_nil]
  · rename_i full
    rw [Nat.sub_eq_zero_of_le (Nat.le_of_not_lt full), List.take_zero, List.append_nil]

/-- What is queued in two parts has as much room as in one. -/
theorem queued_append (c : Core) (first second : List Action) :
    ({ c with actions := c.queued first } : Core).queued second = c.queued (first ++ second) := by
  unfold queued
  rw [List.take_append, List.append_assoc, List.length_append, List.length_take]
  congr 3
  omega

theorem feed_eq (c : Core) (chunk : List UInt8) : ∃ endpoint, c.feed chunk = { c with
    endpoint := endpoint
    connectTimeout := if c.isLast chunk then c.connectTimeout.cancel else c.connectTimeout
    actions := c.queued ((c.reply? chunk).toList.map .notify) } := by
  unfold feed isLast reply?
  rcases c.endpoint.receive chunk with ⟨error | received, endpoint⟩
  · dsimp only
    cases endpoint.errorReply error with
    | none => exact ⟨endpoint, by simp [queued_nil]⟩
    | some reply =>
      rcases queues : endpoint.queueReply reply with ⟨_ | reply, after⟩
      · exact ⟨after, by simp [queues, queued_nil]⟩
      · exact ⟨after, by simp [queues, push_eq, queued]⟩
  · cases received with
    | reply reply => exact ⟨endpoint, by simp [push_eq, queued]⟩
    | complete | needMore | deferred | channelRequest | reset | dropped | ignored =>
      exact ⟨endpoint, by simp [queued_nil]⟩

theorem onWritePermit_eq (c : Core) {data : List UInt8} {permit : Permit}
    (asked : Permit.ofData? data = some permit) : c.onWritePermit data =
      (if permit.attr = c.handles.rx + 1 ∧ c.established then c.feed permit.value else c).push
        permit.response := by
  unfold Permit.ofData? at asked
  split at asked
  · cases asked
    rfl
  · cases asked

theorem onWritePermit_short (c : Core) {data : List UInt8} (short : Permit.ofData? data = none) :
    c.onWritePermit data = c := by
  unfold onWritePermit
  split
  · cases short
  · rfl

/-- The value of a request goes to the endpoint, if it may, and the response is queued last. -/
theorem onPacket_permit {c : Core} {packet : EventPacket} {permit : Permit}
    (asked : Input.permit? (.packet packet) = some permit) :
    ∃ endpoint, c.onPacket packet = { c with
      endpoint := endpoint
      connectTimeout :=
        if c.completes (.packet packet) then c.connectTimeout.cancel else c.connectTimeout
      actions := c.queued (c.offers (.packet packet)) } := by
  have chunk : c.chunk? (.packet packet) =
      if permit.attr = c.handles.rx + 1 ∧ c.established then some permit.value else none := by
    simp only [chunk?, asked, Option.bind_some]
  simp only [completes, offers, chunk, asked]
  simp only [Input.permit?] at asked
  split at asked
  · rename_i named
    have code := EventPacket.code_of_vendorEvent named
    have reached : c.onPacket packet = c.onWritePermit packet.vendorData := by
      simp only [onPacket, onVendor, code, named]
      rfl
    rw [reached, c.onWritePermit_eq asked, push_eq]
    split
    · obtain ⟨endpoint, fed⟩ := c.feed_eq permit.value
      refine ⟨endpoint, ?_⟩
      rw [fed, ← queued_append]
      rfl
    · exact ⟨c.endpoint, rfl⟩
  · cases asked

/-- What brings nothing to the endpoint queues nothing. -/
theorem Turns.still {c : Core} {input : Input} (joined : ¬c.Severs input) (timeless : input ≠ .tick)
    (untaken : input ≠ .nextAction) (silent : c.chunk? input = none)
    (unasked : input.permit? = none) (established available : Bool) (handles : Handles)
    (endpoint : Endpoint .legacy) : c.Turns input { c with
      established := established
      txPoolAvailable := available
      handles := handles
      endpoint := endpoint } := by
  have turns := Turns.served joined timeless untaken established available handles endpoint
  have offers : c.offers input = [] := by simp [Core.offers, silent, unasked]
  have completes : c.completes input = false := by simp [Core.completes, silent]
  rw [offers, completes, queued_nil] at turns
  exact turns

/-- A packet that neither severs the client nor asks for a permit can only raise a flag. -/
theorem Turns.unasked {c : Core} {packet : EventPacket} (joined : ¬c.Severs (.packet packet))
    (unasked : Input.permit? (.packet packet) = none) (established available : Bool) :
    c.Turns (.packet packet)
      { c with established := established, txPoolAvailable := available } := by
  have silent : c.chunk? (.packet packet) = none := by simp [chunk?, unasked]
  exact .still joined nofun nofun silent unasked established available c.handles c.endpoint

theorem unsevered_of_vendor {c : Core} {packet : EventPacket}
    (code : packet.code = EventCode.vendor) : ¬c.Severs (.packet packet) := by
  rintro (gone | connects)
  · rw [gone] at code
    cases code
  · rw [connects.1] at code
    cases code

theorem onVendor_turns {c : Core} {packet : EventPacket} (joined : ¬c.Severs (.packet packet))
    (unasked : Input.permit? (.packet packet) = none) :
    c.Turns (.packet packet) (c.onVendor packet) := by
  have turns := Turns.unasked joined unasked
  unfold onVendor
  match named : packet.vendorCode.bind VendorEvent.ofCode? with
  | some .attributeModified =>
    simp only [onAttributeModified]
    split
    · split
      · exact turns true c.txPoolAvailable
      · exact turns c.established c.txPoolAvailable
    · exact turns c.established c.txPoolAvailable
  | some .writePermitRequest =>
    have short : Permit.ofData? packet.vendorData = none := by
      simpa only [Input.permit?, named, if_true] using unasked
    simp only [c.onWritePermit_short short]
    exact turns c.established c.txPoolAvailable
  | some .txPoolAvailable => exact turns c.established true
  | some .pairingComplete | some .passKeyRequest | some .numericComparison
  | some .connectionUpdateResponse | some .procedureTimeout | some .exchangeMtuResponse
  | some .indication | none => exact turns c.established c.txPoolAvailable

theorem unasked_of_leMeta {packet : EventPacket} (code : packet.code = EventCode.leMeta) :
    Input.permit? (.packet packet) = none := by
  refine if_neg fun named => ?_
  rw [EventPacket.code_of_vendorEvent named] at code
  cases code

theorem onLeMeta_turns {c : Core} {packet : EventPacket} (code : packet.code = EventCode.leMeta) :
    c.Turns (.packet packet) (c.onLeMeta packet.params) := by
  have unasked := unasked_of_leMeta code
  have unconnected (other : ¬Connects packet) : c.Turns (.packet packet) c := by
    refine .unasked (fun severs => ?_) unasked c.established c.txPoolAvailable
    rcases severs with gone | connects
    · rw [gone] at code
      cases code
    · exact other connects
  unfold onLeMeta
  split
  · rename_i event status low high rest shape
    split
    · rename_i success
      obtain ⟨event, rfl⟩ := success
      exact .connected ⟨code, _, _, _, _, shape, event⟩ _
    · rename_i other
      refine unconnected ?_
      rintro ⟨-, _, _, _, _, same, event⟩
      cases shape.symm.trans same
      exact other ⟨event, rfl⟩
  · rename_i short
    refine unconnected ?_
    rintro ⟨-, _, _, _, _, same, -⟩
    exact short _ _ _ _ _ same

theorem onPacket_turns (c : Core) (packet : EventPacket) :
    c.Turns (.packet packet) (c.onPacket packet) := by
  cases asked : Input.permit? (.packet packet) with
  | some permit =>
    obtain ⟨endpoint, reached⟩ := onPacket_permit (c := c) asked
    have code : packet.code = EventCode.vendor := by
      simp only [Input.permit?] at asked
      split at asked
      · exact EventPacket.code_of_vendorEvent ‹_›
      · cases asked
    have turns : c.Turns (.packet packet) _ :=
      .served (unsevered_of_vendor code) nofun nofun c.established c.txPoolAvailable c.handles
        endpoint
    rw [reached]
    exact turns
  | none =>
    unfold onPacket
    split
    · rename_i gone
      exact .restarted gone nofun
    · rename_i linked
      split
      · rename_i code
        exact onLeMeta_turns code
      · rename_i other
        have joined : ¬c.Severs (.packet packet) :=
          fun severs => severs.elim linked fun connects => other connects.1
        split
        · exact onVendor_turns joined asked
        · exact .unasked joined asked c.established c.txPoolAvailable

theorem step_turns (c : Core) (input : Input) : c.Turns input (c.step input) := by
  cases input with
  | packet packet => exact c.onPacket_turns packet
  | tick =>
    by_cases late : (c.connectTimeout.tick c.tick).phase = .expired
    · simp only [step, onTick, late, if_true]
      exact .restarted late (by simp)
    · simp only [step, onTick, late, if_false]
      exact .ticked late
  | resetLink => exact .reset
  | nextAction =>
    have tail : c.nextAction.2 = { c with actions := c.actions.tail } := by
      cases c
      rename_i actions
      cases actions <;> rfl
    simp only [step, tail]
    exact .taken
  | feed chunk =>
    obtain ⟨endpoint, fed⟩ := c.feed_eq chunk
    have joined : ¬c.Severs (.feed chunk) := id
    have turns := Turns.served joined (by simp) (by simp) c.established c.txPoolAvailable c.handles
      endpoint
    have offers : c.offers (.feed chunk) = (c.reply? chunk).toList.map .notify := List.append_nil _
    have completes : c.completes (.feed chunk) = c.isLast chunk := rfl
    rw [offers, completes] at turns
    simp only [step, fed]
    exact turns
  | setHandles handles =>
    have joined : ¬c.Severs (.setHandles handles) := id
    exact .still joined (by simp) (by simp) rfl rfl c.established c.txPoolAvailable handles
      c.endpoint
  | clearPool =>
    have joined : ¬c.Severs (.clearPool) := id
    exact .still joined (by simp) (by simp) rfl rfl c.established false c.handles c.endpoint
  | serve endpoint =>
    have joined : ¬c.Severs (.serve endpoint) := id
    exact .still joined (by simp) (by simp) rfl rfl c.established c.txPoolAvailable c.handles
      endpoint

/-- The inputs, each with the state that it meets. -/
def trace (c : Core) : List Input → List (Core × Input)
  | [] => []
  | input :: inputs => (c, input) :: (c.step input).trace inputs

theorem mem_trace {c : Core} {inputs : List Input} {e : Core × Input} (met : e ∈ c.trace inputs) :
    e.2 ∈ inputs := by
  induction inputs generalizing c with
  | nil => cases met
  | cons input inputs ih =>
    rcases List.mem_cons.mp met with rfl | later
    · exact .head _
    · exact .tail _ (ih later)

end Core

/-- The run of a script of inputs. -/
theorem Run.script {initial c : Core} {past : List (Core × Input)} (run : Run initial past c)
    (inputs : List Input) : Run initial (past ++ c.trace inputs) (inputs.foldl Core.step c) := by
  induction inputs generalizing c past with
  | nil => exact (List.append_nil past).symm ▸ run
  | cons input inputs ih =>
    rw [Core.trace, List.append_cons]
    exact ih (run.next input)

end CardLink.Legacy
