import CardLink.Proofs.Controller.Posts

namespace CardLink

namespace Endpoint

variable {e : Endpoint .negotiated}

/-- No chunk of a message is longer than the chunk length, or than a header by itself. -/
theorem nextChunk_length {data chunk : List UInt8} {after : Endpoint .negotiated}
    (next : e.nextChunk data = (some chunk, after)) : chunk.length ≤ max e.chunkLength 5 := by
  obtain ⟨-, -, rfl, -⟩ := nextChunk_some next
  have header : e.messageHeader.length ≤ 5 := by
    rw [messageHeader_eq, Chunk.header_length]
    unfold LinkKind.headerLength
    split <;> decide
  have bare (bytes : List UInt8) : e.pad bytes = bytes := rfl
  rw [bare, List.length_append]
  have taken := List.length_take_le e.nextCount (data.drop e.send.offset)
  unfold nextCount at taken ⊢
  omega

theorem answer_reply {bytes reply : List UInt8} (answered : (e.answer bytes).1 = .reply reply) :
    reply = bytes := by
  have bare : e.pad bytes = bytes := rfl
  unfold answer queueReply at answered
  split at answered
  · rename_i given
    split at given
    · cases given
    · cases given
      cases answered
      exact bare
  · cases answered

theorem store_reply (payload reply : List UInt8) : (e.store payload).1 ≠ .reply reply := by
  simp only [store]
  intro replied
  split at replied <;> cases replied

/-- A chunk of a message has no reply. -/
theorem receiveMessage_reply {channel : UInt16} {body reply : List UInt8}
    {after : Endpoint .negotiated} : e.receiveMessage channel body ≠ .ok (.reply reply, after) := by
  intro received
  have stored {e : Endpoint .negotiated} {payload : List UInt8}
      (store : Except.ok (e.store payload) = (.ok (.reply reply, after) :
        Except ChunkError (Received × Endpoint .negotiated))) : False :=
    store_reply payload reply (congrArg Prod.fst (Except.ok.inj store))
  unfold receiveMessage at received
  split at received
  · dsimp only at received
    split at received
    · cases received
    split at received
    · split at received
      · split at received
        · cases received
        split at received
        · cases received
        · exact stored received
      · cases received
    split at received
    · cases received
    split at received
    · cases received
    · exact stored received
  · cases received

/-- What is echoed is cut to the chunk length, and the other replies are short. -/
theorem perform_reply {tag : Tag} {channel : UInt16} {chunk body reply : List UInt8}
    {after : Endpoint .negotiated}
    (performed : e.perform tag channel chunk body = .ok (.reply reply, after)) :
    reply.length ≤ max e.chunkLength 6 := by
  have echoed (e : Endpoint .negotiated) : (e.echo chunk).length ≤ e.chunkLength :=
    List.length_take_le ..
  have shorter {e' : Endpoint .negotiated} {bytes : List UInt8}
      (answered : e'.answer bytes = (.reply reply, after))
      (short : bytes.length ≤ max e.chunkLength 6) : reply.length ≤ max e.chunkLength 6 :=
    answer_reply (congrArg Prod.fst answered) ▸ short
  have unchecked : checkControl .negotiated body = .ok () := rfl
  unfold perform at performed
  rw [unchecked] at performed
  cases tag with
  | apdu =>
    dsimp only at performed
    split at performed
    · cases performed
    · exact absurd performed receiveMessage_reply
  | init =>
    have bound : (e.restart.echo chunk).length ≤ e.chunkLength := echoed e.restart
    exact shorter (Except.ok.inj performed) (Nat.le_trans bound (Nat.le_max_left ..))
  | abort => cases performed
  | version =>
    have bound : (e.controlHeader channel Tag.version.byte ++
        LinkKind.negotiated.versionBody).length ≤ 6 := (by decide : 5 ≤ 6)
    exact shorter (Except.ok.inj performed) (Nat.le_trans bound (Nat.le_max_right ..))
  | echo => exact shorter (Except.ok.inj performed) (Nat.le_trans (echoed e) (Nat.le_max_left ..))
  | mtu => exact shorter (Except.ok.inj performed) (Nat.le_max_right ..)
  | allocateChannel => cases performed

theorem receive_reply_length {chunk reply : List UInt8}
    (answered : (e.receive chunk).1 = .ok (.reply reply)) :
    reply.length ≤ max e.chunkLength 6 := by
  unfold receive dispatch at answered
  split at answered
  · rename_i received after dispatched
    cases answered
    split at dispatched
    · cases dispatched
    · split at dispatched
      · exact perform_reply dispatched
      · split at dispatched <;> cases dispatched
  · cases answered

end Endpoint

namespace Controller

/-- No chunk can get longer than there is room for. -/
structure Exchange.Bounded (x : Exchange) : Prop where
  ceiling : x.endpoint.layout.ceiling ≤ maxChunkLength
  chunkLength : x.endpoint.layout.chunkLength ≤ maxChunkLength

theorem Exchange.Bounded.short {x : Exchange} (bounded : x.Bounded) {length least : Nat}
    (chunk : length ≤ max x.endpoint.chunkLength least) (few : least ≤ maxChunkLength) :
    length ≤ maxChunkLength :=
  Nat.le_trans chunk (Nat.max_le.mpr ⟨bounded.chunkLength, few⟩)

namespace Core

variable {c : Core}

/-- No more is kept for a command than there is room for in it. -/
structure Snug (c : Core) : Prop extends c.Sized, c.exchange.Bounded where
  waiting : ∀ notice ∈ c.pending, notice.chunk.length ≤ maxChunkLength

theorem fits_some {post : Post} (fits : post.Fits) : ∀ other ∈ some post, other.Fits :=
  fun _ same => Option.some.inj same ▸ fits

theorem fits_none : ∀ post ∈ (none : Option Post), post.Fits := fun _ => nofun

theorem fits_bare {command : Command} {params : List UInt8}
    (room : params.length ≤ min 255 command.room) :
    ∀ post ∈ some (Post.mk command params []), post.Fits :=
  fits_some ⟨Nat.le_trans room (Nat.min_le_left ..), Nat.le_trans room (Nat.min_le_right ..), nofun⟩

theorem updateParams_length (service handle : UInt16) (value : List UInt8) :
    (updateParams service handle value).length = value.length + 6 := by
  simp only [updateParams, List.length_append, Word.length_little, List.length_cons,
    List.length_nil]
  omega

theorem chunkPost_fits {chunk : List UInt8} (short : chunk.length ≤ maxChunkLength) :
    (c.chunkPost chunk).Fits := by
  have params : (c.chunkPost chunk).params.length = chunk.length + 6 := updateParams_length ..
  have most : maxChunkLength = 156 := rfl
  refine ⟨by omega, ?_, fun part member => List.mem_singleton.mp member ▸ short⟩
  have room : (c.chunkPost chunk).command.room = 266 := rfl
  omega

theorem namePost_fits (name : c.name.length ≤ Advertising.nameCapacity) :
    c.namePost.Fits := by
  have params : c.namePost.params.length = c.name.length + 6 := updateParams_length ..
  have most : Advertising.nameCapacity = 20 := rfl
  refine ⟨by omega, ?_, fun part member => List.mem_singleton.mp member ▸ name⟩
  have room : c.namePost.command.room = 266 := rfl
  omega

theorem advDataPost_fits (name : c.name.length ≤ Advertising.nameCapacity) :
    c.advDataPost.Fits := by
  have params : c.advDataPost.params.length = c.name.length + 6 := by
    simp only [advDataPost, List.length_cons, List.length_append, List.length_nil]
    omega
  have most : Advertising.nameCapacity = 20 := rfl
  have room : c.advDataPost.command.room = 32 := rfl
  refine ⟨by omega, by omega, fun part member => ?_⟩
  rw [List.mem_singleton.mp member]
  simp only [List.length_cons, List.length_append, List.length_nil, Advertising.capacity]
  omega

theorem discoverablePost_fits (name : c.name.length ≤ Advertising.nameCapacity) :
    c.discoverablePost.Fits := by
  have params : c.discoverablePost.params.length = c.name.length + 14 := by
    simp only [discoverablePost, List.length_cons, List.length_append, Word.length_little,
      List.length_nil]
    omega
  have most : Advertising.nameCapacity = 20 := rfl
  have room : c.discoverablePost.command.room = 48 := rfl
  refine ⟨by omega, by omega, fun part member => ?_⟩
  rw [List.mem_singleton.mp member]
  simp only [List.length_cons, Advertising.capacity]
  omega

theorem scanResponsePost_fits (c : Core) : c.scanResponsePost.Fits := by
  refine ⟨?_, ?_, fun part member => ?_⟩
  · exact Nat.le_trans (Nat.le_of_eq c.scanResponseParams_length) (by decide)
  · exact Nat.le_of_eq c.scanResponseParams_length
  · rw [List.mem_singleton.mp member]
    exact (by decide : 24 ≤ Advertising.capacity)

theorem advPost?_fit (name : c.name.length ≤ Advertising.nameCapacity) (step : AdvStep) :
    ∀ post ∈ c.advPost? step, post.Fits := by
  cases step with
  | setAdvData => exact fits_some (advDataPost_fits name)
  | setScanResponse => exact fits_some c.scanResponsePost_fits
  | setDeviceName => exact fits_some (namePost_fits name)
  | start => exact fits_some (discoverablePost_fits name)
  | idle | finished => exact fits_none

theorem initPost?_fit (sized : c.Sized) (step : InitStep) :
    ∀ post ∈ c.initPost? step, post.Fits := by
  unfold initPost?
  split
  · exact advPost?_fit sized.name .setAdvData
  · split
    · exact fits_bare (by decide)
    · exact fits_none
  · intro post posted
    obtain ⟨command, sends, rfl⟩ := Option.map_eq_some_iff.mp posted
    exact fits_bare (initParams_room sized sends) _ rfl

theorem stepInitPost?_fit (sized : c.Sized) (reply : List UInt8) :
    ∀ post ∈ c.stepInitPost? reply, post.Fits := by
  unfold stepInitPost?
  split
  · split
    · exact initPost?_fit sized _
    · exact advPost?_fit sized.name _
  · obtain ⟨handles, learned⟩ := c.learnHandles_eq reply
    rw [learned]
    exact initPost?_fit (c := { c with handles := handles }) ⟨sized.name, sized.address⟩ _

theorem switchPost?_fit (sized : c.Sized) (on : Bool) : ∀ post ∈ c.switchPost? on, post.Fits := by
  cases on with
  | true => exact fits_some (discoverablePost_fits sized.name)
  | false => exact fits_bare (by decide)

theorem switchedPost?_fit (sized : c.Sized) : ∀ post ∈ c.switchedPost?, post.Fits := by
  unfold switchedPost?
  split
  · split
    · exact initPost?_fit sized _
    · split
      · exact advPost?_fit sized.name _
      · exact fits_none
  · exact fits_none

theorem intervalPost?_fit (c : Core) : ∀ post ∈ c.intervalPost?, post.Fits := by
  unfold intervalPost?
  split
  · exact fits_bare (by decide : 10 ≤ 10)
  · exact fits_none

theorem notifiedPost?_fit (snug : c.Snug) : ∀ post ∈ c.notifiedPost?, post.Fits := by
  unfold notifiedPost?
  split
  · split
    · rename_i chunk next
      have length := Endpoint.nextChunk_length (Prod.ext next rfl)
      exact fits_some (chunkPost_fits (snug.short length (by decide)))
    · exact c.intervalPost?_fit
  · exact fits_none

theorem ackedPost?_fit (snug : c.Snug) : ∀ post ∈ c.ackedPost?, post.Fits := by
  unfold ackedPost?
  split
  · cases held : c.pending with
    | none => exact fits_none
    | some notice => exact fits_some (chunkPost_fits (snug.waiting notice held))
  · exact fits_none

theorem completionPost?_fit (snug : c.Snug) (packet : EventPacket) :
    ∀ post ∈ c.completionPost? packet, post.Fits := by
  unfold completionPost?
  split
  · exact fits_none
  split
  · split
    · exact stepInitPost?_fit snug.toSized _
    · exact fits_none
  · split
    · exact advPost?_fit snug.name _
    · exact fits_none
  · exact fits_none
  all_goals
    split
    · exact ackedPost?_fit snug
    split
    · exact notifiedPost?_fit snug
    split
    · exact switchedPost?_fit snug.toSized
    · exact fits_none

theorem feedPost?_fit (snug : c.Snug) (chunk : List UInt8) :
    ∀ post ∈ c.feedPost? chunk, post.Fits := by
  unfold feedPost?
  split
  · exact fits_none
  split
  · rename_i reply answered
    have length := Endpoint.receive_reply_length answered
    exact fits_some (chunkPost_fits (snug.short length (by decide)))
  · exact fits_some (chunkPost_fits (by decide : 1 ≤ maxChunkLength))
  · exact fits_none

theorem modifiedPost?_fit (snug : c.Snug) (data : List UInt8) :
    ∀ post ∈ c.modifiedPost? data, post.Fits := by
  simp only [modifiedPost?]
  split
  · exact fits_none
  split
  · unfold subscribedPost?
    split
    · exact fits_bare (by decide : 2 ≤ 2)
    · exact fits_none
  split
  · exact feedPost?_fit snug _
  · exact fits_none

/-- The permit for the longest value that an event can carry has exactly 255 bytes. -/
theorem permitPost?_fit {data : List UInt8} (short : data.length ≤ 253) :
    ∀ post ∈ permitPost? data, post.Fits := by
  simp only [permitPost?]
  split
  · exact fits_none
  · refine fits_bare ?_
    generalize carried : (data.drop 5).take (data[4]?.getD 0).toNat = value
    have length : value.length ≤ 248 := by
      rw [← carried, List.length_take, List.length_drop]
      omega
    have room : min 255 Command.writeResponse.room = 255 := rfl
    simp only [room, List.length_append, Word.length_little, List.length_cons, List.length_nil]
    omega

theorem vendorPost?_fit (snug : c.Snug) {packet : EventPacket}
    (short : packet.params.length ≤ 255) :
    ∀ post ∈ c.vendorPost? packet, post.Fits := by
  have data : packet.vendorData.length ≤ 253 := by
    rw [EventPacket.vendorData, List.length_drop]
    omega
  simp only [vendorPost?]
  split
  · exact fits_none
  split
  · exact modifiedPost?_fit snug _
  · exact permitPost?_fit data
  · exact fits_bare (by decide : 2 ≤ 2)
  · exact initPost?_fit snug.toSized _
  all_goals exact fits_none

theorem packetPost?_fit (snug : c.Snug) {packet : EventPacket}
    (short : packet.params.length ≤ 255) :
    ∀ post ∈ c.packetPost? packet, post.Fits := by
  unfold packetPost?
  split
  · exact completionPost?_fit snug packet
  · exact fits_none
  · exact fits_none
  · exact initPost?_fit snug.toSized _
  · split
    · split
      · exact initPost?_fit snug.toSized _
      · exact advPost?_fit snug.name _
    · split
      · exact vendorPost?_fit snug short
      · exact fits_none

theorem messagePost?_fit (snug : c.Snug) (data : List UInt8) :
    ∀ post ∈ c.messagePost? data, post.Fits := by
  unfold messagePost?
  split
  · cases next : ((c.endpoint.begun data.length).nextChunk data).1 with
    | none => exact fits_none
    | some chunk =>
      have length := Endpoint.nextChunk_length (Prod.ext next rfl)
      exact fits_some (chunkPost_fits (snug.short length (by decide)))
  · exact fits_none

theorem answerPost?_fit (c : Core) (answer : PairingAnswer) :
    ∀ post ∈ c.answerPost? answer, post.Fits := by
  unfold answerPost?
  split
  · exact fits_bare (by decide : 6 ≤ 6)
  · exact fits_bare (by decide : 3 ≤ 3)
  · exact fits_none

/-- An input that a link can hand its core: a packet has at most 255 parameters. -/
def Carried : Input → Prop
  | .packet packet => packet.params.length ≤ 255
  | _ => True

theorem post?_fit (snug : c.Snug) {input : Input} (carried : Carried input) :
    ∀ post ∈ c.post? input, post.Fits := by
  cases input with
  | beginInit => exact initPost?_fit snug.toSized .reset
  | packet packet => exact packetPost?_fit snug carried
  | sendMessage data => exact messagePost?_fit snug data
  | enableAdvertising on =>
    simp only [post?]
    split
    · exact switchPost?_fit snug.toSized on
    · exact fits_none
  | resetPairings =>
    simp only [post?]
    split
    · split
      · exact initPost?_fit snug.toSized _
      · exact fits_bare (by decide)
    · exact fits_none
  | respond answer => exact c.answerPost?_fit answer
  | tick | nextCommand | commandDropped | poll | setDeviceName | setPlaneMode
  | nextPairingMessage => exact fits_none

end Core

theorem Exchange.Bounded.terms {x after : Exchange} (bounded : x.Bounded)
    (same : after.terms = x.terms) : after.Bounded := by
  have layout : after.endpoint.layout = x.endpoint.layout := congrArg Terms.layout same
  obtain ⟨ceiling, chunkLength⟩ := bounded
  rw [← layout] at ceiling chunkLength
  exact ⟨ceiling, chunkLength⟩

namespace Core

variable {c : Core}

theorem Shift.bounded {effect : Effect} {after : Exchange} (bounded : c.exchange.Bounded)
    (shift : c.Shift effect after) : after.Bounded := by
  have limited (length : Nat) : min length c.endpoint.layout.ceiling ≤ maxChunkLength :=
    Nat.le_trans (Nat.min_le_right ..) bounded.ceiling
  cases shift with
  | restarted | connected => exact ⟨bounded.ceiling, limited _⟩
  | disconnected | subscribed | encrypted | permitted | sequenced | other => exact { bounded with }
  | tuned mtu => exact ⟨bounded.ceiling, Nat.le_trans (Nat.min_le_left ..) bounded.ceiling⟩
  | written _ _ _ fed => exact Exchange.Bounded.terms { bounded with } fed.terms
  | writeAcknowledged answered => exact bounded.terms answered.terms
  | notified acknowledged => exact bounded.terms acknowledged.terms
  | ticked ticked => exact bounded.terms ticked.terms
  | polled =>
    exact bounded.terms (Exchange.terms_endpoint c.endpoint.takeComplete_keepsSend.layout)
  | sent _ sent => exact bounded.terms sent.terms

theorem Shift.settings {effect : Effect} {after : Exchange} (shift : c.Shift effect after) :
    after.settings = c.settings := by
  cases shift with
  | restarted | connected | disconnected | subscribed | encrypted | tuned | permitted | sequenced
  | other | polled => rfl
  | written _ _ _ fed => exact congrArg Terms.settings fed.terms
  | writeAcknowledged answered => exact congrArg Terms.settings answered.terms
  | notified acknowledged => exact congrArg Terms.settings acknowledged.terms
  | ticked ticked => exact congrArg Terms.settings ticked.terms
  | sent _ sent => exact congrArg Terms.settings sent.terms

/-- A notification that waits is one that has waited before, or is no longer than a chunk. -/
def Retains (c : Core) (after : Exchange) : Prop :=
  ∀ notice ∈ after.pending, notice ∈ c.pending ∨ notice.chunk.length ≤ maxChunkLength

theorem retains_same {after : Exchange} (same : after.pending = c.pending) : c.Retains after :=
  fun _ waits => .inl (same ▸ waits)

theorem retains_none {after : Exchange} (none : after.pending = none) : c.Retains after := by
  intro notice waits
  rw [none] at waits
  cases waits

theorem retains_offered {x after : Exchange} {chunk : List UInt8} {ofMessage : Bool}
    (same : x.pending = c.pending) (short : chunk.length ≤ maxChunkLength)
    (offered : x.Offered chunk ofMessage after) : c.Retains after := by
  cases offered with
  | held =>
    rintro notice ⟨⟩
    exact .inr short
  | queued => exact retains_same same

/-- Only what the host writes can be longer than a chunk. -/
theorem Shift.retains {effect : Effect} {after : Exchange} (bounded : c.exchange.Bounded)
    (shift : c.Shift effect after) (unwritten : ∀ permit value, effect ≠ .written permit value) :
    c.Retains after := by
  cases shift with
  | restarted | connected | disconnected => exact retains_none rfl
  | subscribed | encrypted | tuned | permitted | sequenced | other | polled =>
    exact retains_same rfl
  | written permit value => exact absurd rfl (unwritten permit value)
  | writeAcknowledged answered =>
    cases answered with
    | ignored | silent => exact retains_same rfl
    | notified => exact retains_none rfl
  | notified acknowledged => cases acknowledged <;> exact retains_same rfl
  | ticked ticked =>
    cases ticked with
    | running => exact retains_same rfl
    | expired => exact retains_none rfl
  | sent data sent =>
    generalize (c.sendMessage data).1 = result at sent
    cases sent with
    | refused | overlong | stuck => exact retains_same rfl
    | @begun _ _ chunk endpoint next _ offered =>
      have length := Endpoint.nextChunk_length next
      exact retains_offered rfl (bounded.short length (by decide)) offered

theorem feed_retains (bounded : c.exchange.Bounded) (value : List UInt8) :
    c.Retains (c.feed value).exchange := by
  have replied (endpoint : Endpoint .negotiated) {reply : List UInt8}
      (short : reply.length ≤ maxChunkLength) :
      c.Retains (queueNotify { c with endpoint := endpoint } reply false).exchange :=
    retains_offered rfl short (queueNotify_offered { c with endpoint := endpoint } reply false)
  have length {reply : List UInt8} (answered : (c.endpoint.receive value).1 = .ok (.reply reply)) :
      reply.length ≤ max c.endpoint.chunkLength 6 := Endpoint.receive_reply_length answered
  unfold feed
  generalize c.endpoint.receive value = received at *
  obtain ⟨answer, endpoint⟩ := received
  match answer with
  | .ok (.reply reply) =>
    exact replied endpoint (bounded.short (length rfl) (by decide))
  | .ok (.channelRequest channel) => exact replied endpoint (by decide : 1 ≤ maxChunkLength)
  | .ok .reset =>
    dsimp only
    split <;> exact retains_same rfl
  | .ok .needMore | .ok (.complete _) | .ok .deferred | .ok .dropped | .ok .ignored
  | .error _ => exact retains_same rfl

theorem onAttributeModified_retains (bounded : c.exchange.Bounded) (data : List UInt8) :
    c.Retains (c.onAttributeModified data).exchange := by
  simp only [onAttributeModified, onSubscription]
  split
  · exact retains_same rfl
  split
  · split
    · exact retains_same (congrArg Exchange.pending (send_unqueued _ _ _))
    · exact retains_same rfl
  split
  · exact feed_retains bounded _
  · exact retains_same rfl

theorem onWritePermit_retains (bounded : c.exchange.Bounded) (data : List UInt8) :
    c.Retains (c.onWritePermit data).exchange := by
  simp only [onWritePermit]
  split
  · exact retains_same rfl
  · rw [send_exchange _ (by decide)]
    split
    · exact feed_retains (c := { c with awaitingWriteAck := true }) { bounded with } _
    · exact retains_same rfl

theorem onVendor_retains (bounded : c.exchange.Bounded) (packet : EventPacket) :
    c.Retains (c.onVendor packet).exchange := by
  have shift := onVendor_shift c packet
  simp only [onVendor, vendorEffect] at shift ⊢
  split
  · exact retains_same rfl
  · rename_i mine
    simp only [if_neg mine] at shift
    generalize packet.vendorCode.bind VendorEvent.ofCode? = event at *
    have unwritten {effect : Effect} (other : ∀ permit value, effect ≠ .written permit value)
        {after : Core} (shift : c.Shift effect after.exchange) : c.Retains after.exchange :=
      shift.retains bounded other
    cases event with
    | none => exact unwritten (by rintro _ _ ⟨⟩) shift
    | some event =>
      cases event with
      | attributeModified => exact onAttributeModified_retains bounded _
      | writePermitRequest => exact onWritePermit_retains bounded _
      | pairingComplete | passKeyRequest | numericComparison | indication | procedureTimeout
      | exchangeMtuResponse | connectionUpdateResponse | txPoolAvailable =>
        exact unwritten (by rintro _ _ ⟨⟩) shift

/-- Only a vendor event has the host write. -/
theorem effect_written {input : Input} {permit : Bool} {value : List UInt8}
    (written : c.effect input = .written permit value) :
    ∃ packet, c.step input = c.onVendor packet ∧ c.vendorEffect packet = .written permit value := by
  cases input with
  | packet packet =>
    refine ⟨packet, ?_⟩
    simp only [Core.effect, packetEffect] at written
    simp only [step, onPacket]
    grind [completionEffect, leEffect]
  | resetPairings =>
    simp only [Core.effect] at written
    split at written <;> cases written
  | _ => cases written

theorem step_retains (bounded : c.exchange.Bounded) (input : Input) :
    c.Retains (c.step input).exchange := by
  by_cases written : ∃ permit value, c.effect input = .written permit value
  · obtain ⟨permit, value, written⟩ := written
    obtain ⟨packet, same, -⟩ := effect_written written
    rw [same]
    exact onVendor_retains bounded packet
  · exact (step_shift c input).retains bounded fun permit value same =>
      written ⟨permit, value, same⟩

theorem Snug.step (snug : c.Snug) (input : Input) : (c.step input).Snug where
  toSized := snug.toSized.step input
  toBounded := (step_shift c input).bounded snug.toBounded
  waiting := by
    intro notice waits
    rcases step_retains snug.toBounded input notice waits with before | short
    · exact snug.waiting notice before
    · exact short

end Core

section

variable {settings : Settings} {random : RandomSource} {name : String} {address : List UInt8}
  {planeMode : Bool} {past : List (Core × Input)} {c : Core}

theorem Run.settings_eq (run : Run (.create settings random name address planeMode) past c) :
    c.settings = settings := by
  induction run with
  | start => rfl
  | next run input ih => exact (Core.step_shift _ input).settings.trans ih

theorem bounded_create (settings : Settings) (random : RandomSource) (name : String)
    (address : List UInt8) (planeMode : Bool) :
    (Core.create settings random name address planeMode).exchange.Bounded :=
  have ceiling : min settings.maxMtu.toNat maxChunkLength ≤ maxChunkLength := Nat.min_le_right ..
  ⟨ceiling, Nat.le_trans (Nat.min_le_right ..) ceiling⟩

theorem Run.bounded (run : Run (.create settings random name address planeMode) past c) :
    c.exchange.Bounded := by
  induction run with
  | start => exact bounded_create settings random name address planeMode
  | next _ input ih => exact (Core.step_shift _ input).bounded ih

theorem Run.waiting_short (run : Run (.create settings random name address planeMode) past c) :
    ∀ notice ∈ c.pending, notice.chunk.length ≤ maxChunkLength := by
  induction run with
  | start => exact nofun
  | next run input ih =>
    exact fun notice waits => (Core.step_retains run.bounded input notice waits).elim (ih notice) id

/-- Nothing that is kept for a command ever outgrows it. -/
theorem Run.snug (run : Run (.create settings random name address planeMode) past c)
    (six : address.length = 6) : c.Snug := by
  induction run with
  | start =>
    exact { bounded_create settings random name address planeMode with
            name := Advertising.fittingBytes_length _ _
            address := six
            waiting := nofun }
  | next run input ih => exact ih.step input

end

end Controller

end CardLink
