import CardLink.Proofs.Controller.Fitting
import CardLink.Proofs.Controller.Naming
import CardLink.Proofs.Framing.Quiet
import CardLink.Proofs.Framing.Resuming

namespace CardLink.Controller

/-- The chunk is a part of this message, under a header. -/
def CutFrom (data chunk : List UInt8) : Prop :=
  ∃ channel sequence offset count, offset + count ≤ data.length ∧ chunk =
    Chunk.header .negotiated channel sequence data.length ++ (data.drop offset).take count

theorem cutFrom_nextChunk {e after : Endpoint .negotiated} {data chunk : List UInt8}
    (length : e.send.length = data.length) (next : e.nextChunk data = (some chunk, after)) :
    CutFrom data chunk := by
  obtain ⟨-, -, cut, -⟩ := Endpoint.nextChunk_some next
  rw [Endpoint.messageHeader_eq, length] at cut
  exact ⟨_, _, _, _, Endpoint.nextChunk_within next, cut⟩

/-- A message of which not even the first chunk fits is not cut up later either. -/
theorem stuck_begun {e after : Endpoint .negotiated} {data : List UInt8}
    (next : (e.begun data.length).nextChunk data = (none, after)) : after.send.active = false := by
  obtain ⟨full, more⟩ := Endpoint.nextChunk_stuck next rfl rfl (Nat.zero_le _)
  have active : (e.begun data.length).send.active = true := rfl
  unfold Endpoint.nextCount at full
  unfold Endpoint.nextChunk at next
  rw [if_pos active] at next
  dsimp only at next
  rw [if_pos ⟨full, more⟩] at next
  cases next
  rfl

namespace Core

/-- The message that is begun, with a first chunk that is cut off. -/
def opens (c : Core) : Effect → Option (List UInt8)
  | .sent data =>
    if (c.sendMessage data).1.isOk ∧ ((c.endpoint.begun data.length).nextChunk data).1.isSome then
      some data
    else none
  | _ => none

/-- A value that may be written when this message is the last one begun: a control reply, the name
of the device in one of the steps, or a part of that message. -/
inductive Rightful (begun : Option (List UInt8)) (c : Core) (effect : Effect)
    (value : List UInt8) : Prop
  | reply (control : ¬OfMessage value)
  | name (sequences : Sequences effect) (called : value = c.name)
  | part {data : List UInt8} (latest : begun = some data) (cut : CutFrom data value)

/-- The first chunk of a message is let go before another message is begun. -/
structure Leaks (begun : Option (List UInt8)) (c : Core) (effect : Effect) : Prop where
  unbegun : begun = none
  held : c.exchange.held = some true
  acknowledged : effect = .writeAcknowledged
  room : c.outbox.length < outboxCapacity

end Core

/-- The last message that has been begun. -/
def lastBegun (later : List (Core × Input)) : Option (List UInt8) :=
  later.foldl (fun last e => (e.1.opens (e.1.effect e.2)).or last) none

theorem lastBegun_append (later : List (Core × Input)) (c : Core) (input : Input) :
    lastBegun (later ++ [(c, input)]) = (c.opens (c.effect input)).or (lastBegun later) := by
  simp only [lastBegun, List.foldl_append, List.foldl_cons, List.foldl_nil]

/-- All that is queued belongs to a message that is begun within these inputs, or to none. -/
def Renounced (later : List (Core × Input)) : Prop :=
  ∀ before e input after, later = before ++ (e, input) :: after → ∀ value ∈ e.queuedBy input,
    Core.Rightful (lastBegun (before ++ [(e, input)])) e (e.effect input) value

namespace Exchange

/-- What could still be cut off, or waits, belongs to the message that was begun last; only if
`left` may the chunk that waits be older than that. -/
structure Clear (x : Exchange) (left : Prop) (begun : Option (List UInt8)) : Prop where
  sending : x.endpoint.isSending = true → x.endpoint.send.active = true →
    begun = some x.txData ∧ x.endpoint.send.length = x.txData.length
  waiting : ∀ notice ∈ x.pending, notice.ofMessage = true →
    begun = none ∧ left ∨ ∃ data, begun = some data ∧ CutFrom data notice.chunk

variable {x after : Exchange} {left : Prop} {begun : Option (List UInt8)}

/-- Nothing is sent that was not being sent before, and no chunk waits that did not wait before. -/
theorem Clear.kept (clear : x.Clear left begun)
    (send : after.endpoint.isSending = true → x.endpoint.isSending = true ∧
      after.endpoint.send = x.endpoint.send ∧ after.txData = x.txData)
    (waiting : ∀ notice ∈ after.pending, notice.ofMessage = true → notice ∈ x.pending) :
    after.Clear left begun where
  sending sending active := by
    obtain ⟨before, same, data⟩ := send sending
    rw [same, data]
    exact clear.sending before (same ▸ active)
  waiting notice held part := clear.waiting notice (waiting notice held part) part

theorem Clear.fed (clear : x.Clear left begun) {value : List UInt8} (fed : x.Fed value after) :
    after.Clear left begun := by
  cases fed with
  | replied keeps locked _ offered =>
    cases offered with
    | held =>
      refine clear.kept (fun sending => ⟨locked ▸ sending, keeps.send, rfl⟩) ?_
      rintro _ ⟨⟩ ⟨⟩
    | queued =>
      exact clear.kept (fun sending => ⟨locked ▸ sending, keeps.send, rfl⟩) fun _ held _ => held
  | received keeps =>
    exact clear.kept (fun sending => ⟨keeps.unbegun sending, keeps.send, rfl⟩) fun _ held _ => held
  | aborted => exact clear.kept nofun fun _ held _ => held

theorem Clear.acknowledged (clear : x.Clear left begun) (acknowledged : x.Acknowledged after) :
    after.Clear left begun := by
  cases acknowledged with
  | ignored => exact clear
  | released _ sending next =>
    obtain ⟨active, -, -, rfl⟩ := Endpoint.nextChunk_some next
    have before := clear.sending sending active
    exact ⟨fun _ _ => before, clear.waiting⟩
  | finished => exact clear.kept nofun fun _ held _ => held

theorem Clear.answered (clear : x.Clear left begun) (answered : x.Answered after) :
    after.Clear left begun := by
  cases answered with
  | ignored => exact clear
  | silent => exact clear.kept (fun sending => ⟨sending, rfl, rfl⟩) fun _ held _ => held
  | notified => exact clear.kept (fun sending => ⟨sending, rfl, rfl⟩) nofun

theorem Clear.ticked (clear : x.Clear left begun) (ticked : x.Ticked after) :
    after.Clear left begun := by
  cases ticked with
  | running => exact clear.kept (fun sending => ⟨sending, rfl, rfl⟩) fun _ held _ => held
  | expired => exact clear.kept nofun nofun

theorem Clear.sent (clear : x.Clear left begun) (steady : x.Steady) {data : List UInt8}
    {result : Except SendError Unit} (sent : x.Sent data result after) :
    after.Clear left ((if result.isOk ∧
      ((x.endpoint.begun data.length).nextChunk data).1.isSome then some data else none).or
        begun) := by
  cases sent with
  | refused => exact clear
  | overlong => exact clear.kept nofun fun _ held _ => held
  | stuck _ _ next =>
    rw [next, if_neg (fun opened => nomatch opened.2), Option.none_or]
    exact ⟨fun _ active => absurd ((stuck_begun next).symm.trans active) (by decide), clear.waiting⟩
  | @begun _ _ chunk endpoint next _ offered =>
    rw [next, if_pos ⟨rfl, rfl⟩, Option.some_or]
    have cut : CutFrom data chunk := cutFrom_nextChunk rfl next
    obtain ⟨-, -, -, rfl⟩ := Endpoint.nextChunk_some next
    cases offered with
    | held =>
      refine ⟨fun _ _ => ⟨rfl, rfl⟩, ?_⟩
      rintro _ ⟨⟩ -
      exact .inr ⟨data, rfl, cut⟩
    | queued free =>
      refine ⟨fun _ _ => ⟨rfl, rfl⟩, fun notice held => ?_⟩
      have waits := steady.waits (Option.ne_none_iff_exists'.mpr ⟨notice, held⟩)
      exact absurd (free.symm.trans waits) (by decide)

end Exchange

namespace Core

open Exchange

variable {c : Core} {effect : Effect} {after : Exchange} {left : Prop}
  {begun : Option (List UInt8)}

theorem Shift.clear (shift : c.Shift effect after) (steady : c.exchange.Steady)
    (clear : c.exchange.Clear left begun) : after.Clear left ((c.opens effect).or begun) := by
  cases shift with
  | restarted | connected | disconnected => exact clear.kept nofun nofun
  | subscribed | encrypted | tuned | permitted | sequenced | other =>
    exact clear.kept (fun sending => ⟨sending, rfl, rfl⟩) fun _ held _ => held
  | written permit value _ fed =>
    have answering : Clear
      { c.exchange with awaitingWriteAck := c.awaitingWriteAck || permit } left begun :=
      ⟨clear.sending, clear.waiting⟩
    exact answering.fed fed
  | writeAcknowledged answered => exact clear.answered answered
  | notified acknowledged => exact clear.acknowledged acknowledged
  | ticked ticked => exact clear.ticked ticked
  | polled =>
    have keeps := c.endpoint.takeComplete_keepsSend
    exact clear.kept (fun sending => ⟨keeps.unbegun sending, keeps.send, rfl⟩) fun _ held _ => held
  | sent data sent => exact clear.sent steady sent

theorem step_writeAcknowledged {input : Input}
    (acknowledged : c.effect input = .writeAcknowledged) : c.step input = c.onWriteAck := by
  obtain ⟨packet, reached, same⟩ := effect_completed (.inr acknowledged)
  rw [reached]
  rw [same] at acknowledged
  cases answered : packet.opcode with
  | none =>
    simp only [completionEffect, answered] at acknowledged
    split at acknowledged <;> cases acknowledged
  | some opcode =>
    simp only [completionEffect, answered] at acknowledged
    split at acknowledged
    · rename_i settled
      split at acknowledged
      · rename_i response
        simp only [onCommandComplete, answered]
        rcases settled with phase | phase <;> simp only [phase, response, if_true]
      · repeat' split at acknowledged
        all_goals cases acknowledged
    · cases acknowledged

theorem notify_notices {chunk : List UInt8} (short : chunk.length ≤ maxChunkLength)
    (ofMessage : Bool) : (c.notify chunk ofMessage).notices =
      c.notices ++ if c.outbox.length < outboxCapacity then [chunk] else [] := by
  have fits := c.chunkPost_fits short
  have updated : Frame.updated? (c.chunkPost chunk).frame = some chunk :=
    (updated?_build fits.build).trans (if_pos rfl)
  have sent (d : Core) (same : d.outbox = c.outbox) :
      (d.updateCharValue c.handles.service c.handles.notify chunk).notices =
        c.notices ++ if c.outbox.length < outboxCapacity then [chunk] else [] := by
    have queued : d.updateCharValue c.handles.service c.handles.notify chunk =
        if d.outbox.length < outboxCapacity then
          { d with outbox := d.outbox ++ [(c.chunkPost chunk).frame] }
        else d := send_fitting (c := d) fits
    rw [queued, notices, same]
    split
    · simp [notices, updated]
    · simp [notices, same]
  unfold notify
  split
  · exact sent _ rfl
  · exact sent c rfl

/-- What waits for the completion of a write response is let go, if there is room for it. -/
theorem queued_onWriteAck (waits : c.awaitingWriteAck = true) {notice : PendingNotify}
    (held : c.pending = some notice) (short : notice.chunk.length ≤ maxChunkLength) :
    c.exchange.queued c.onWriteAck.exchange =
      if c.outbox.length < outboxCapacity then [notice.chunk] else [] := by
  refine queued_append ?_
  simp only [onWriteAck, waits, held, if_true]
  exact notify_notices (c := { c with awaitingWriteAck := false, pending := none }) short _

/-- Whatever is queued is rightful, but for a chunk that has waited since before any message was
begun. -/
theorem Shift.rightful (shift : c.Shift effect after) (steady : c.exchange.Steady)
    (clear : c.exchange.Clear left begun)
    (names : Sequences effect → ∀ value ∈ c.exchange.queued after, value = c.name)
    {value : List UInt8} (member : value ∈ c.exchange.queued after) :
    Rightful ((c.opens effect).or begun) c effect value ∨
      begun = none ∧ left ∧ c.exchange.held = some true ∧ effect = .writeAcknowledged := by
  cases shift with
  | restarted => exact absurd member (not_mem_queued List.drop_nil)
  | disconnected => exact .inl (.name (.inr rfl) (names (.inr rfl) value member))
  | sequenced => exact .inl (.name (.inl rfl) (names (.inl rfl) value member))
  | connected | subscribed | encrypted | tuned | permitted | polled =>
    exact absurd member (not_mem_queued List.drop_length)
  | other notices fewer =>
    exact absurd member (not_mem_queued (List.drop_eq_nil_of_le fewer.length_le))
  | written _ _ _ fed => exact .inl (.reply (fed.control member))
  | writeAcknowledged answered =>
    cases answered with
    | ignored | silent => exact absurd member (not_mem_queued List.drop_length)
    | @notified _ notice held added either =>
      have same : value = notice.chunk := eq_of_mem_queued either rfl member
      subst same
      by_cases part : notice.ofMessage = true
      · rcases clear.waiting notice held part with ⟨unbegun, left⟩ | ⟨data, latest, cut⟩
        · refine .inr ⟨unbegun, left, ?_, rfl⟩
          exact (congrArg (Option.map PendingNotify.ofMessage) held).trans (congrArg some part)
        · exact .inl (.part latest cut)
      · exact .inl (.reply fun tag => part ((steady.sound notice held).marked.mpr tag))
  | notified acknowledged =>
    cases acknowledged with
    | ignored | finished => exact absurd member (not_mem_queued List.drop_length)
    | released _ sending next added either =>
      have same := eq_of_mem_queued either rfl member
      subst same
      obtain ⟨active, -, -, -⟩ := Endpoint.nextChunk_some next
      obtain ⟨latest, length⟩ := clear.sending sending active
      exact .inl (.part latest (cutFrom_nextChunk length next))
  | ticked ticked => cases ticked <;> exact absurd member (not_mem_queued List.drop_length)
  | sent data sent =>
    dsimp only [opens]
    generalize (c.sendMessage data).1 = result at sent ⊢
    cases sent with
    | refused | overlong | stuck => exact absurd member (not_mem_queued List.drop_length)
    | begun _ _ next offered =>
      cases offered with
      | held => exact absurd member (not_mem_queued List.drop_length)
      | queued _ added either =>
        have same := eq_of_mem_queued either rfl member
        subst same
        have opened : ((c.endpoint.begun data.length).nextChunk data).1.isSome := by
          rw [show (c.endpoint.begun data.length).nextChunk data = _ from next]
          rfl
        rw [if_pos ⟨rfl, opened⟩]
        exact .inl (.part rfl (cutFrom_nextChunk rfl next))

/-- A chunk of the host that gives the message up is not answered. -/
theorem feed_cancelled {value : List UInt8} (cancels : c.endpoint.Cancels value) :
    (c.feed value).endpoint.isSending = false ∧ (c.feed value).pending = c.pending ∧
      (c.feed value).notices = c.notices := by
  have given := cancels.givenUp
  have reset {answer} (received : (c.endpoint.receive value).1 = .ok answer) :=
    (Endpoint.cancels_iff received).mp cancels
  unfold feed
  generalize c.endpoint.receive value = received at *
  obtain ⟨answer, endpoint⟩ := received
  match answer with
  | .error _ => exact ⟨given.free, rfl, rfl⟩
  | .ok .reset =>
    dsimp only
    split
    · exact ⟨given.free, rfl, rfl⟩
    · exact ⟨rfl, rfl, rfl⟩
  | .ok (.reply _) | .ok (.channelRequest _) | .ok .needMore | .ok (.complete _) | .ok .deferred
  | .ok .dropped | .ok .ignored => cases reset rfl

theorem onAttributeModified_written {data : List UInt8} {permit : Bool} {value : List UInt8}
    (written : c.modificationEffect data = .written permit value) :
    (c.onAttributeModified data).exchange =
      ({ c with awaitingWriteAck := c.awaitingWriteAck || permit }.feed value).exchange := by
  simp only [modificationEffect] at written
  simp only [onAttributeModified]
  split at written
  · cases written
  · rename_i long
    rw [if_neg long]
    split at written
    · cases written
    · rename_i other
      rw [if_neg other]
      split at written
      · rename_i accepted
        rw [if_pos accepted]
        cases written
        rw [Bool.or_false]
      · cases written

theorem onWritePermit_written {data : List UInt8} {permit : Bool} {value : List UInt8}
    (written : c.permitEffect data = .written permit value) :
    (c.onWritePermit data).exchange =
      ({ c with awaitingWriteAck := c.awaitingWriteAck || permit }.feed value).exchange := by
  have accepts : acceptsWrites { c with awaitingWriteAck := true } = c.acceptsWrites := rfl
  simp only [permitEffect] at written
  simp only [onWritePermit]
  split at written
  · cases written
  · rename_i long
    rw [if_neg long, send_exchange _ (by decide), accepts]
    split at written
    · rename_i accepted
      rw [if_pos accepted]
      cases written
      rw [Bool.or_true]
    · cases written

/-- The host's bytes are fed to the endpoint, whichever way they are written. -/
theorem step_written {input : Input} {permit : Bool} {value : List UInt8}
    (written : c.effect input = .written permit value) : (c.step input).exchange =
      ({ c with awaitingWriteAck := c.awaitingWriteAck || permit }.feed value).exchange := by
  obtain ⟨packet, reached, written⟩ := effect_written written
  rw [reached]
  simp only [vendorEffect] at written
  simp only [onVendor]
  split at written
  · cases written
  · rename_i own
    rw [if_neg own]
    split at written
    · rename_i event
      simp only [event]
      exact onAttributeModified_written written
    · cases written
    · rename_i event
      simp only [event]
      exact onWritePermit_written written
    all_goals cases written

/-- Once the host has given a message up, no more is sent, and what waits still waits. -/
theorem step_cancelled {input : Input} {permit : Bool} {value : List UInt8}
    (written : c.effect input = .written permit value) (cancels : c.endpoint.Cancels value) :
    (c.step input).endpoint.isSending = false ∧ (c.step input).pending = c.pending ∧
      c.queuedBy input = [] := by
  have same := step_written written
  obtain ⟨free, waits, none⟩ := feed_cancelled
    (c := { c with awaitingWriteAck := c.awaitingWriteAck || permit }) cancels
  refine ⟨?_, ?_, ?_⟩
  · exact (congrArg (fun x : Exchange => x.endpoint.isSending) same).trans free
  · exact (congrArg Exchange.pending same).trans waits
  · rw [queuedBy, same]
    exact queued_append (none.trans (List.append_nil _).symm)

end Core

variable {first c d : Core} {later : List (Core × Input)} {left : Prop}

theorem Run.clear (run : Run first later d) (steady : first.exchange.Steady)
    (clear : first.exchange.Clear left none) :
    d.exchange.Steady ∧ d.exchange.Clear left (lastBegun later) := by
  induction run with
  | start => exact ⟨steady, clear⟩
  | @next later d _ input ih =>
    rw [lastBegun_append]
    have shift := d.step_shift input
    exact ⟨shift.steady ih.1, shift.clear ih.1 ih.2⟩

/-- From a state on in which nothing is sent, whatever is queued is rightful, but for a chunk that
waits in that state. -/
theorem Run.rightful (run : Run first later d) (steady : first.exchange.Steady)
    (clear : first.exchange.Clear left none) {before after : List (Core × Input)} {e : Core}
    {input : Input} (split : later = before ++ (e, input) :: after) {value : List UInt8}
    (member : value ∈ e.queuedBy input) :
    Core.Rightful (lastBegun (before ++ [(e, input)])) e (e.effect input) value ∨
      lastBegun before = none ∧ left ∧ e.exchange.held = some true ∧
        e.effect input = .writeAcknowledged := by
  subst split
  obtain ⟨steady, clear⟩ := run.before.clear steady clear
  rw [lastBegun_append]
  exact (e.step_shift input).rightful steady clear Core.queuedBy_names member

section

variable {settings : Settings} {random : RandomSource} {name : String} {address : List UInt8}
  {planeMode : Bool} {past : List (Core × Input)}

/-- The completion of a write response lets go what waits for it, if there is room. -/
theorem Run.queued_writeAcknowledged
    (run : Run (.create settings random name address planeMode) past c) {input : Input}
    (acknowledged : c.effect input = .writeAcknowledged) {notice : PendingNotify}
    (held : c.pending = some notice) :
    c.queuedBy input = if c.outbox.length < outboxCapacity then [notice.chunk] else [] := by
  have waits : c.awaitingWriteAck = true :=
    run.steady.waits (Option.ne_none_iff_exists'.mpr ⟨notice, held⟩)
  rw [Core.queuedBy, Core.step_writeAcknowledged acknowledged]
  exact Core.queued_onWriteAck waits held (run.waiting_short notice held)

theorem exists_of_held (held : c.exchange.held = some true) :
    ∃ notice, c.pending = some notice ∧ notice.ofMessage = true :=
  Option.map_eq_some_iff.mp held

/-- A chunk that leaks is queued, and no message since is there for it to belong to. -/
theorem Run.not_renounced (run : Run (.create settings random name address planeMode) past c)
    {before after : List (Core × Input)} {input : Input}
    (leaks : Core.Leaks (lastBegun before) c (c.effect input)) :
    ¬Renounced (before ++ (c, input) :: after) := by
  intro renounced
  obtain ⟨notice, held, part⟩ := exists_of_held leaks.held
  have queued := run.queued_writeAcknowledged leaks.acknowledged held
  rw [if_pos leaks.room] at queued
  have member : notice.chunk ∈ c.queuedBy input := by
    rw [queued]
    exact List.mem_cons_self
  have rightful := renounced before c input after rfl notice.chunk member
  rw [lastBegun_append, leaks.acknowledged, leaks.unbegun] at rightful
  cases rightful with
  | reply control => exact control ((run.steady.sound notice held).marked.mp part)
  | name sequences => rcases sequences with same | same <;> cases same
  | part latest => cases latest

/-- Once the host has given a message up, by an abort or by a chunk that is refused, nothing more of
that message is queued, unless its first chunk waits for a write response: then it is queued after
all when that response is completed before another message is begun. -/
theorem Run.renounced_iff (run : Run (.create settings random name address planeMode) past c)
    {input : Input} {permit : Bool} {value : List UInt8}
    (written : c.effect input = .written permit value) (cancels : c.endpoint.Cancels value)
    (rest : Run (c.step input) later d) :
    (c.step input).endpoint.isSending = false ∧ c.queuedBy input = [] ∧
      (Renounced later ↔ ∀ before e input after, later = before ++ (e, input) :: after →
        ¬Core.Leaks (lastBegun before) e (e.effect input)) ∧
      (c.exchange.held ≠ some true → Renounced later) := by
  obtain ⟨free, waits, silent⟩ := Core.step_cancelled written cancels
  have begun := run.next input
  have clear : (c.step input).exchange.Clear (c.exchange.held = some true) none := by
    refine ⟨fun sending => absurd (free.symm.trans sending) (by decide), fun notice held part => ?_⟩
    have held : c.pending = some notice := waits.symm.trans held
    refine .inl ⟨rfl, ?_⟩
    exact (congrArg (Option.map PendingNotify.ofMessage) held).trans (congrArg some part)
  have rightful {before after e input} (split : later = before ++ (e, input) :: after)
      {value : List UInt8} (member : value ∈ e.queuedBy input) :=
    rest.rightful begun.steady clear split member
  refine ⟨free, silent, ⟨?_, ?_⟩, ?_⟩
  · rintro renounced before e input after rfl leaks
    exact (begun.append rest.before).not_renounced leaks renounced
  · intro tight before e input after split value member
    refine (rightful split member).resolve_right ?_
    rintro ⟨unbegun, -, held, acknowledged⟩
    subst split
    obtain ⟨notice, waits, -⟩ := exists_of_held held
    have queued := (begun.append rest.before).queued_writeAcknowledged acknowledged waits
    have room : e.outbox.length < outboxCapacity := by
      refine Decidable.byContradiction fun full => ?_
      rw [queued, if_neg full] at member
      cases member
    exact tight before e input after rfl ⟨unbegun, held, acknowledged, room⟩
  · intro unheld before e input after split value member
    exact (rightful split member).resolve_right fun leak => unheld leak.2.1

end

/-- The host gives a message of three chunks up while the first one is in flight. Its completion has
nothing queued, and the next message goes out. -/
theorem Run.renounced_iff_flying :
    let initial := Core.create .standard (.stepping 0 1) "card" [1, 2, 3, 4, 5, 6] true
    let begun := Input.session ++ [.sendMessage (List.replicate 40 0x2A)]
    let c := begun.foldl Core.step initial
    let abort := Input.modified 0x71 [0x03]
    let inputs := [.completed .updateCharValue, .sendMessage [0x90, 0x00]]
    (∃ past, Run initial past c) ∧ c.chunkInFlight = true ∧ c.endpoint.isSending = true ∧
      c.effect abort = .written false [0x03] ∧ c.endpoint.Cancels [0x03] ∧
      ∃ later d, Run (c.step abort) later d ∧ later.map Prod.snd = inputs ∧
        later.map (fun e => (e.1.queuedBy e.2).length) = [0, 1] ∧ Renounced later := by
  intro initial begun c abort inputs
  obtain ⟨past, run⟩ := Run.script initial begun
  have written : c.effect abort = .written false [0x03] := by decide +kernel
  have cancels : c.endpoint.Cancels [0x03] := .inr (.inr (by decide))
  have given : Run (c.step abort) [] (c.step abort) := .start
  have rest := (given.next (.completed .updateCharValue)).next (.sendMessage [0x90, 0x00])
  have renounced := run.renounced_iff written cancels rest
  exact ⟨⟨past, run⟩, by decide +kernel, by decide +kernel, written, cancels, _, _, rest, rfl,
    by decide +kernel, renounced.2.2.2 (by decide +kernel)⟩

/-- The first chunk of a message waits for the completion of a write response when the host gives
the message up, and it is queued after that. -/
theorem queued_after_abort :
    let initial := Core.create .standard (.stepping 0 1) "card" [1, 2, 3, 4, 5, 6] true
    let inputs := Input.session ++ [.asked 0x61 [0xAA], .sendMessage [0x90, 0x00]]
    let c := inputs.foldl Core.step initial
    let abort := Input.modified 0x71 [0x03]
    let acknowledged := Input.completed .writeResponse
    let chunk := [0x05, 0x00, 0x00, 0x00, 0x02, 0x90, 0x00]
    (∃ past, Run initial past c) ∧ c.endpoint.isSending = true ∧ c.notices = [] ∧
      c.effect abort = .written false [0x03] ∧ c.endpoint.Cancels [0x03] ∧
      (c.step abort).endpoint.isSending = false ∧
      (c.step abort).queuedBy acknowledged = [chunk] ∧ CutFrom [0x90, 0x00] chunk ∧
      ¬Renounced [(c.step abort, acknowledged)] := by
  intro initial inputs c abort acknowledged chunk
  obtain ⟨past, run⟩ := Run.script initial inputs
  have written : c.effect abort = .written false [0x03] := by decide +kernel
  have cancels : c.endpoint.Cancels [0x03] := .inr (.inr (by decide))
  have leaks : Core.Leaks none (c.step abort) ((c.step abort).effect acknowledged) :=
    ⟨rfl, by decide +kernel, by decide +kernel, by decide +kernel⟩
  have cut : CutFrom [0x90, 0x00] chunk := ⟨0, 0, 0, 2, by decide, by decide⟩
  have unkept : ¬Renounced [(c.step abort, acknowledged)] :=
    (run.next abort).not_renounced (show Core.Leaks (lastBegun []) _ _ from leaks)
  exact ⟨⟨past, run⟩, by decide +kernel, by decide +kernel, written, cancels, by decide +kernel,
    by decide +kernel, cut, unkept⟩

end CardLink.Controller
