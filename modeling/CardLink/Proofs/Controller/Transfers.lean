import CardLink.Proofs.Controller.Exchange

namespace CardLink.Controller

/-- The value is a part of a message, not a control reply. -/
def OfMessage (value : List UInt8) : Prop := Chunk.tag? .negotiated value = some .apdu

instance (value : List UInt8) : Decidable (OfMessage value) :=
  inferInstanceAs (Decidable (_ = _))

namespace Exchange

variable (x : Exchange)

/-- The exchange once a notification has gone to the outbox, where it may be lost. -/
def noted (ofMessage : Bool) (queued : List (List UInt8)) : Exchange :=
  { x with
    chunkInFlight := x.chunkInFlight || ofMessage
    transferTimeout :=
      if ofMessage then
        x.transferTimeout.arm (Settings.microseconds x.settings.transferTimeout)
      else x.transferTimeout
    notices := x.notices ++ queued }

/-- A notification waits for the write response, or goes to the outbox. -/
inductive Offered (chunk : List UInt8) (ofMessage : Bool) : Exchange → Prop
  | held (waits : x.awaitingWriteAck = true) :
      Offered chunk ofMessage { x with pending := some ⟨chunk, ofMessage⟩ }
  | queued (free : x.awaitingWriteAck = false) (queued : List (List UInt8))
      (either : queued = [] ∨ queued = [chunk]) : Offered chunk ofMessage (x.noted ofMessage queued)

/-- The host's bytes are answered, taken in, or end what is being sent. -/
inductive Fed (value : List UInt8) : Exchange → Prop
  | replied {endpoint : Endpoint .negotiated} {reply : List UInt8} {after : Exchange}
      (keeps : x.endpoint.KeepsSend endpoint) (locked : endpoint.isSending = x.endpoint.isSending)
      (control : ¬OfMessage reply)
      (offered : Offered { x with endpoint := endpoint } reply false after) : Fed value after
  | received {endpoint : Endpoint .negotiated} (keeps : x.endpoint.KeepsSend endpoint)
      (kept : endpoint.isSending = x.endpoint.isSending ∨ x.endpoint.Cancels value) :
      Fed value { x with endpoint := endpoint }
  | aborted (landed : x.chunkInFlight = false) (cancels : x.endpoint.Cancels value)
      {endpoint : Endpoint .negotiated} (keeps : x.endpoint.KeepsSend endpoint) :
      Fed value { x with
        endpoint := endpoint.finishSend
        txData := []
        transferTimeout := x.transferTimeout.cancel }

/-- An acknowledged notification is a chunk's only while a chunk is in flight; it releases the next
chunk, or ends the send. -/
inductive Acknowledged : Exchange → Prop
  | ignored (landed : x.chunkInFlight = false) : Acknowledged x
  | released {chunk : List UInt8} {endpoint : Endpoint .negotiated}
      (flying : x.chunkInFlight = true) (sending : x.endpoint.isSending = true)
      (next : x.endpoint.nextChunk x.txData = (some chunk, endpoint))
      (queued : List (List UInt8)) (either : queued = [] ∨ queued = [chunk]) :
      Acknowledged ({ x with endpoint := endpoint }.noted true queued)
  | finished (flying : x.chunkInFlight = true)
      (last : x.endpoint.isSending = true → (x.endpoint.nextChunk x.txData).1 = none) :
      Acknowledged { x with
        endpoint := x.endpoint.finishSend
        txData := []
        chunkInFlight := false
        transferTimeout := x.transferTimeout.cancel }

/-- An acknowledged write response lets the notification go that waits for it. -/
inductive Answered : Exchange → Prop
  | ignored (free : x.awaitingWriteAck = false) : Answered x
  | silent (waits : x.awaitingWriteAck = true) (idle : x.pending = none) :
      Answered { x with awaitingWriteAck := false }
  | notified (waits : x.awaitingWriteAck = true) {waiting : PendingNotify}
      (held : x.pending = some waiting) (queued : List (List UInt8))
      (either : queued = [] ∨ queued = [waiting.chunk]) :
      Answered
        ({ x with awaitingWriteAck := false, pending := none }.noted waiting.ofMessage queued)

/-- A message is refused, or its first chunk is offered. -/
inductive Sent (data : List UInt8) : Except SendError Unit → Exchange → Prop
  | refused (error : SendError) : Sent data (.error error) x
  | overlong (free : x.endpoint.isSending = false) (long : messageCapacity < data.length) :
      Sent data (.error (.tooLong data.length))
        { x with endpoint := (x.endpoint.begun data.length).finishSend, txData := [] }
  | stuck (free : x.endpoint.isSending = false) (short : data.length ≤ messageCapacity)
      {endpoint : Endpoint .negotiated}
      (next : (x.endpoint.begun data.length).nextChunk data = (none, endpoint)) :
      Sent data (.ok ()) { x with endpoint := endpoint, txData := data }
  | begun (free : x.endpoint.isSending = false) (short : data.length ≤ messageCapacity)
      {chunk : List UInt8} {endpoint : Endpoint .negotiated}
      (next : (x.endpoint.begun data.length).nextChunk data = (some chunk, endpoint))
      {after : Exchange}
      (offered : Offered { x with endpoint := endpoint, txData := data } chunk true after) :
      Sent data (.ok ()) after

/-- Time passes; a chunk that is not acknowledged in time drops everything. -/
inductive Ticked : Exchange → Prop
  | running (timely : (x.transferTimeout.tick (Settings.microseconds x.settings.tick)).phase ≠
        .expired) :
      Ticked { x with
        transferTimeout := x.transferTimeout.tick (Settings.microseconds x.settings.tick) }
  | expired (late : (x.transferTimeout.tick (Settings.microseconds x.settings.tick)).phase =
        .expired) : Ticked x.cleared

variable {x : Exchange}

theorem Offered.terms {chunk : List UInt8} {ofMessage : Bool} {after : Exchange}
    (offered : x.Offered chunk ofMessage after) : after.terms = x.terms := by
  cases offered <;> rfl

theorem Fed.terms {value : List UInt8} {after : Exchange} (fed : x.Fed value after) :
    after.terms = x.terms := by
  cases fed with
  | replied keeps _ _ offered => exact offered.terms.trans (terms_endpoint keeps.layout)
  | received keeps => exact terms_endpoint keeps.layout
  | aborted _ _ keeps => exact terms_endpoint keeps.layout

theorem Acknowledged.terms {after : Exchange} (acknowledged : x.Acknowledged after) :
    after.terms = x.terms := by
  cases acknowledged with
  | ignored | finished => rfl
  | released _ _ next =>
    have layout := x.endpoint.nextChunk_layout x.txData
    rw [next] at layout
    exact terms_endpoint layout

theorem Answered.terms {after : Exchange} (answered : x.Answered after) :
    after.terms = x.terms := by
  cases answered <;> rfl

theorem Sent.terms {data : List UInt8} {result : Except SendError Unit} {after : Exchange}
    (sent : x.Sent data result after) : after.terms = x.terms := by
  have layout := (x.endpoint.begun data.length).nextChunk_layout data
  cases sent with
  | refused | overlong => rfl
  | stuck _ _ next =>
    rw [next] at layout
    exact terms_endpoint layout
  | begun _ _ next offered =>
    rw [next] at layout
    exact offered.terms.trans (terms_endpoint layout)

theorem Ticked.terms {after : Exchange} (ticked : x.Ticked after) : after.terms = x.terms := by
  cases ticked <;> rfl

end Exchange

namespace Core

open Exchange

theorem notify_exchange (c : Core) (chunk : List UInt8) (ofMessage : Bool) :
    ∃ queued, (queued = [] ∨ queued = [chunk]) ∧
      (c.notify chunk ofMessage).exchange = c.exchange.noted ofMessage queued := by
  have sent (d : Core) : ∃ queued, (queued = [] ∨ queued = [chunk]) ∧
      (d.updateCharValue c.handles.service c.handles.notify chunk).exchange =
        { d.exchange with notices := d.notices ++ queued } := by
    have same := eq_of_unqueued (d.send_unqueued .updateCharValue
      (updateParams c.handles.service c.handles.notify chunk))
    have value : (updateParams c.handles.service c.handles.notify chunk).drop 6 = chunk := rfl
    have queued := d.send_notices .updateCharValue
      (updateParams c.handles.service c.handles.notify chunk)
    rw [value] at queued
    rcases queued with lost | ⟨-, added⟩
    · refine ⟨[], .inl rfl, same.trans ?_⟩
      rw [List.append_nil]
      exact congrArg (fun notices => { d.exchange with notices := notices }) lost
    · refine ⟨[chunk], .inr rfl, same.trans ?_⟩
      exact congrArg (fun notices => { d.exchange with notices := notices }) added
  cases ofMessage with
  | true =>
    obtain ⟨queued, either, after⟩ := sent { c with
      chunkInFlight := true
      transferTimeout :=
        c.transferTimeout.arm (Settings.microseconds c.settings.transferTimeout) }
    refine ⟨queued, either, after.trans ?_⟩
    simp only [noted, Bool.or_true, if_true]
    rfl
  | false =>
    obtain ⟨queued, either, after⟩ := sent c
    refine ⟨queued, either, after.trans ?_⟩
    simp only [noted, Bool.or_false, Bool.false_eq_true, if_false]
    rfl

theorem queueNotify_offered (c : Core) (chunk : List UInt8) (ofMessage : Bool) :
    c.exchange.Offered chunk ofMessage (c.queueNotify chunk ofMessage).exchange := by
  unfold queueNotify
  split
  · rename_i waits
    exact .held waits
  · rename_i free
    obtain ⟨queued, either, after⟩ := c.notify_exchange chunk ofMessage
    rw [after]
    exact .queued (Bool.eq_false_iff.mpr free) queued either

theorem feed_fed (c : Core) (value : List UInt8) :
    c.exchange.Fed value (c.feed value).exchange := by
  have keeps := c.endpoint.receive_keepsSend value
  have kept := Classical.em (c.endpoint.Cancels value) |>.symm.imp_left Endpoint.receive_isSending
  have cancels {given} (answer : (c.endpoint.receive value).1 = .ok given) :=
    Endpoint.cancels_iff answer
  have control := (c.endpoint.receive_reply value rfl).1
  unfold feed
  generalize c.endpoint.receive value = received at *
  obtain ⟨answer, endpoint⟩ := received
  match answer with
  | .ok (.reply reply) =>
    refine .replied keeps (kept.resolve_right ?_) (control reply rfl)
      (queueNotify_offered { c with endpoint := endpoint } reply false)
    rw [cancels rfl]
    exact nofun
  | .ok (.channelRequest channel) =>
    refine .replied keeps (kept.resolve_right ?_) ?_
      (queueNotify_offered { c with endpoint := endpoint } _ false)
    · rw [cancels rfl]
      exact nofun
    · exact (by decide : ¬OfMessage [Tag.allocateChannel.byte])
  | .ok .reset =>
    dsimp only
    split
    · exact .received keeps kept
    · rename_i landed
      exact .aborted (Bool.eq_false_iff.mpr landed) ((cancels rfl).mpr rfl) keeps
  | .ok .needMore | .ok (.complete _) | .ok .deferred | .ok .dropped | .ok .ignored
  | .error _ => exact .received keeps kept

theorem finishMessage_exchange (c : Core) : c.finishMessage.exchange =
    { c.exchange with
      endpoint := c.endpoint.finishSend
      txData := []
      transferTimeout := c.transferTimeout.cancel } := by
  simp only [finishMessage, requestInterval]
  split
  · rfl
  · split
    · exact send_exchange _ (by decide) _
    · rfl

theorem onNotifyComplete_acknowledged (c : Core) :
    c.exchange.Acknowledged c.onNotifyComplete.exchange := by
  simp only [onNotifyComplete]
  split
  · rename_i flying
    split
    · rename_i sending
      split
      · rename_i chunk endpoint next
        obtain ⟨queued, either, after⟩ := notify_exchange
          { c with chunkInFlight := false, endpoint := endpoint } chunk true
        rw [after]
        have released : Exchange.noted
            (exchange { c with chunkInFlight := false, endpoint := endpoint }) true queued =
            Exchange.noted { c.exchange with endpoint := endpoint } true queued := by
          simp only [Exchange.noted, Bool.or_true]
          rfl
        rw [released]
        exact .released flying sending next queued either
      · rename_i endpoint next
        rw [finishMessage_exchange]
        have finished : endpoint.finishSend = c.endpoint.finishSend :=
          Endpoint.nextChunk_finishSend next
        dsimp only
        rw [finished]
        exact .finished flying fun _ => congrArg Prod.fst next
    · rename_i idle
      rw [finishMessage_exchange]
      exact .finished flying fun sending => absurd sending idle
  · rename_i landed
    exact .ignored (Bool.eq_false_iff.mpr landed)

theorem onWriteAck_answered (c : Core) : c.exchange.Answered c.onWriteAck.exchange := by
  simp only [onWriteAck]
  split
  · rename_i waits
    split
    · rename_i waiting held
      obtain ⟨queued, either, after⟩ := notify_exchange
        { c with awaitingWriteAck := false, pending := none } waiting.chunk waiting.ofMessage
      rw [after]
      exact .notified waits held queued either
    · rename_i idle
      exact .silent waits idle
  · rename_i free
    exact .ignored (Bool.eq_false_iff.mpr free)

theorem sendMessage_sent (c : Core) (data : List UInt8) :
    c.exchange.Sent data (c.sendMessage data).1 (c.sendMessage data).2.exchange := by
  unfold sendMessage
  split
  · rcases c.endpoint.beginSend_cases data.length with ⟨error, refused⟩ | ⟨free, begun⟩
    · rw [refused]
      exact .refused error
    · rw [begun]
      dsimp only
      split
      · rename_i long
        exact .overlong free long
      · rename_i short
        rw [Nat.not_lt] at short
        split
        · rename_i endpoint next
          exact .stuck free short next
        · rename_i chunk endpoint next
          have offered :=
            queueNotify_offered { c with endpoint := endpoint, txData := data } chunk true
          have next : (c.exchange.endpoint.begun data.length).nextChunk data =
            (some chunk, endpoint) := next
          exact .begun free short next offered
  · exact .refused _

theorem onTick_ticked (c : Core) : c.exchange.Ticked c.onTick.exchange := by
  simp only [onTick]
  split
  · rename_i late
    exact .expired late
  · rename_i timely
    exact .running timely

end Core

end CardLink.Controller
