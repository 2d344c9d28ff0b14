import CardLink.Proofs.Legacy.Rounds
import CardLink.Proofs.Packet

namespace CardLink

namespace Endpoint

variable {kind : LinkKind} {e : Endpoint kind} {chunk : List UInt8}

/-- A send stays unless the host gives it up, and nothing that the host sends begins one. -/
theorem receive_isSending_iff :
    (e.receive chunk).2.isSending = true ↔ e.isSending = true ∧ ¬e.Cancels chunk := by
  by_cases cancels : e.Cancels chunk
  · simp only [cancels, not_true_eq_false, and_false, iff_false, Bool.not_eq_true]
    have reception := receive_reception e chunk
    unfold Cancels at cancels
    generalize (e.receive chunk).1 = answer at *
    generalize (e.receive chunk).2 = after at *
    cases reception with
    | refused | aborted => rfl
    | restarted =>
      rw [answer_endpoint, queueReply_isSending]
      rfl
    | unknown tagged | allocated tagged | dropped tagged | first tagged | next tagged =>
      simp [tagged] at cancels
    | answered reply tagged =>
      rcases tagged with tagged | tagged | tagged <;> simp [tagged] at cancels
  · rw [receive_isSending cancels]
    exact (and_iff_left cancels).symm

variable {data : List UInt8}

/-- While chunks are left, the message is going out whole. -/
def Going (e : Endpoint .legacy) (data : List UInt8) : Prop :=
  e.send.active = true → e.Underway data

/-- A chunk that is cut off is the first of those left, and the others are left after it. -/
def Spells (e : Endpoint .legacy) (data : List UInt8) : Prop :=
  ∀ chunk cut, e.nextChunk data = (some chunk, cut) →
    cut.Going data ∧ e.left data = chunk :: cut.left data

theorem Going.spells {e : Endpoint .legacy} (going : e.Going data) (short : data.length ≤ 65535) :
    e.Spells data := by
  intro chunk cut next
  have active := (nextChunk_some next).1
  obtain ⟨_, _, same, underway, left, -⟩ := (going active).next short active
  rw [next] at same
  cases same
  exact ⟨fun _ => underway, left⟩

/-- A chunk length without room for a payload lets only an empty message through. -/
theorem spells_begun (e : Endpoint .legacy) (short : data.length ≤ 65535) :
    (e.begun data.length).Spells data := by
  by_cases room : 6 ≤ e.chunkLength
  · have underway : (e.begun data.length).Underway data :=
      ⟨rfl, Nat.zero_le _, room, fun _ => Nat.le_refl _⟩
    exact Going.spells (fun _ => underway) short
  · intro chunk cut next
    obtain ⟨-, progress, rfl, rfl⟩ := nextChunk_some next
    have none : (e.begun data.length).nextCount = 0 := by
      have narrow : e.chunkLength - 5 = 0 := by omega
      exact (congrArg (min · _) narrow).trans (Nat.zero_min _)
    have empty : data = [] := by
      rcases progress with some | nothing
      · exact absurd none (Nat.ne_of_gt some)
      · exact List.eq_nil_of_length_eq_zero nothing
    subst empty
    have idle : ((e.begun 0).advanced (e.begun 0).nextCount).send.active = false :=
      decide_eq_false (Nat.not_lt.mpr (Nat.le_of_eq (Nat.zero_sub _)))
    have ended : ((e.begun 0).advanced (e.begun 0).nextCount).left [] = [] :=
      if_neg (Bool.eq_false_iff.mp idle)
    refine ⟨fun active => absurd active (Bool.eq_false_iff.mp idle), ?_⟩
    rw [left_begun _ [] rfl, Chunk.ofMessage, Chunk.carrying, if_pos (.inl (Nat.zero_le _)),
      messageHeader_eq]
    simp only [List.length_nil, ended, List.drop_nil, List.take_nil]
    rfl

/-- Where a chunk is left, one is cut off. -/
theorem Going.left_eq_nil {e : Endpoint .legacy} (going : e.Going data)
    (short : data.length ≤ 65535) : e.left data = [] ↔ (e.nextChunk data).1 = none := by
  by_cases active : e.send.active = true
  · obtain ⟨chunk, cut, next, -, left, -⟩ := (going active).next short active
    rw [next, left]
    exact iff_of_false (List.cons_ne_nil _ _) nofun
  · refine iff_of_true (if_neg active) ?_
    rw [nextChunk, if_neg active]

theorem Going.congr {e after : Endpoint .legacy} (going : e.Going data)
    (layout : after.layout = e.layout) (send : after.send = e.send) : after.Going data :=
  fun active => (going (send ▸ active)).congr layout send

end Endpoint

namespace Legacy

namespace Core

/-- The event ends what the link sends: the client is gone, or a client that has subscribed starts
over or writes a chunk that is refused. -/
def Revokes (c : Core) (packet : EventPacket) : Prop :=
  packet.code = EventCode.disconnectionComplete ∨
    packet.vendorCode.bind VendorEvent.ofCode? = some .writePermitRequest ∧
      c.established = true ∧ ∃ conn conn' low high length value,
        packet.vendorData = conn :: conn' :: low :: high :: length :: value ∧
          Word.join high low = c.handles.rx + 1 ∧ c.endpoint.Cancels (value.take length.toNat)

theorem push_endpoint (c : Core) (action : Action) : (c.push action).endpoint = c.endpoint := by
  unfold push
  split <;> rfl

theorem feed_isSending (c : Core) (chunk : List UInt8) :
    (c.feed chunk).endpoint.isSending = (c.endpoint.receive chunk).2.isSending := by
  unfold feed
  split <;> rename_i received <;> rw [received]
  · rw [push_endpoint]
  · split
    · rfl
    · rename_i endpoint _ reply _
      have same := endpoint.queueReply_isSending reply
      split <;> rename_i queued <;> rw [queued] at same
      · rw [push_endpoint]
        exact same
      · exact same

theorem onWritePermit_isSending (c : Core) (data : List UInt8) :
    (c.onWritePermit data).endpoint.isSending = true ↔ c.endpoint.isSending = true ∧
      ¬(c.established = true ∧ ∃ conn conn' low high length value,
        data = conn :: conn' :: low :: high :: length :: value ∧
          Word.join high low = c.handles.rx + 1 ∧
            c.endpoint.Cancels (value.take length.toNat)) := by
  unfold onWritePermit
  split
  · rename_i conn conn' low high length value
    simp only [push_endpoint]
    split
    · rename_i written
      rw [feed_isSending, Endpoint.receive_isSending_iff]
      refine and_congr_right' (not_congr ⟨fun cancels => ?_, ?_⟩)
      · exact ⟨written.2, _, _, _, _, _, _, rfl, written.1, cancels⟩
      · rintro ⟨-, _, _, _, _, _, _, same, -, cancels⟩
        cases same
        exact cancels
    · rename_i other
      refine (and_iff_left ?_).symm
      rintro ⟨established, _, _, _, _, _, _, same, handle, -⟩
      cases same
      exact other ⟨handle, established⟩
  · rename_i short
    refine (and_iff_left ?_).symm
    rintro ⟨-, _, _, _, _, _, _, same, -⟩
    exact short _ _ _ _ _ _ same

/-- Of all packets only those that revoke it end a send, and none begins one. -/
theorem onPacket_isSending (c : Core) (packet : EventPacket) :
    (c.onPacket packet).endpoint.isSending = true ↔
      c.endpoint.isSending = true ∧ ¬c.Revokes packet := by
  have passed (linked : packet.code ≠ EventCode.disconnectionComplete)
      (other : packet.vendorCode.bind VendorEvent.ofCode? ≠ some .writePermitRequest) :
      ¬c.Revokes packet := fun revokes => revokes.elim linked fun written => other written.1
  have foreign (other : packet.code ≠ EventCode.vendor) :
      packet.vendorCode.bind VendorEvent.ofCode? ≠ some .writePermitRequest :=
    fun written => other (EventPacket.code_of_vendorEvent written)
  unfold onPacket
  split
  · rename_i gone
    refine iff_of_false ?_ fun sending => sending.2 (.inl gone)
    exact ne_true_of_eq_false (congrArg Endpoint.isSending (push_endpoint _ _))
  · rename_i linked
    split
    · rename_i code
      have same : (c.onLeMeta packet.params).endpoint = c.endpoint := by
        unfold onLeMeta
        split
        · split <;> rfl
        · rfl
      rw [same]
      exact (and_iff_left (passed linked (foreign (by rw [code]; decide)))).symm
    · split
      · unfold onVendor
        split
        · rename_i event
          have same : (c.onAttributeModified packet.vendorData).endpoint = c.endpoint := by
            unfold onAttributeModified
            split
            · split <;> rfl
            · rfl
          rw [same]
          exact (and_iff_left (passed linked (by rw [event]; decide))).symm
        · rename_i event
          rw [onWritePermit_isSending]
          simp only [Revokes, linked, event, true_and, false_or]
        · rename_i event
          exact (and_iff_left (passed linked (by rw [event]; decide))).symm
        · rename_i other _
          exact (and_iff_left (passed linked other)).symm
      · rename_i other
        exact (and_iff_left (passed linked (foreign other))).symm

/-- A tick ends a send only when the client has been silent for too long. -/
theorem onTick_isSending (c : Core) : c.onTick.endpoint.isSending = true ↔
    c.endpoint.isSending = true ∧ (c.connectTimeout.tick c.tick).phase ≠ .expired := by
  simp only [onTick]
  split
  · rename_i late
    simp only [late, ne_eq, not_true_eq_false, and_false, iff_false]
    exact ne_true_of_eq_false (congrArg Endpoint.isSending (push_endpoint _ _))
  · rename_i timely
    simp only [ne_eq, timely, not_false_eq_true, and_true]

end Core

/-- What the send gives where it does not go on after the round. -/
def Round.verdict (r : Round) (whole : Bool) : Except SendError Unit :=
  match r.outcome with
  | .error error => .error (.link error)
  | .ok () => if whole then .ok () else .error .aborted

namespace Link

variable {l after : Link} {data : List UInt8} {r : Round} {steps : Nat}
  {rounds before later : List Round} {result : Except SendError Unit}

/-- Without the lock no chunk goes out. -/
theorem Rounds.stalled (sends : Rounds data steps l rounds result after)
    (free : l.core.endpoint.isSending = false) (going : l.core.endpoint.Going data)
    (short : data.length ≤ 65535) (enough : l.core.endpoint.chunksLeft ≤ steps) :
    rounds = [] ∧
      result = if l.core.endpoint.left data = [] then .ok () else .error .aborted := by
  have held {r : Round} (begun : l.round? data = some r) : False :=
    Bool.eq_false_iff.mp free (round?_held begun).1
  cases sends with
  | exhausted =>
    have idle : ¬l.core.endpoint.send.active = true := fun active => by
      simp [Endpoint.chunksLeft, active] at enough
    rw [Endpoint.left, if_neg idle]
    exact ⟨rfl, rfl⟩
  | done last => exact ⟨rfl, (if_pos ((going.left_eq_nil short).mpr last)).symm⟩
  | cancelled left =>
    exact ⟨rfl, (if_neg fun none => left ((going.left_eq_nil short).mp none)).symm⟩
  | failed begun => exact (held begun).elim
  | sent begun => exact (held begun).elim

/-- What a round leaves of the message, and of the replies. -/
theorem round?_next (controls : l.core.Controls) (spells : l.core.endpoint.Spells data)
    (begun : l.round? data = some r) :
    r.ended.core.Controls ∧ r.ended.core.endpoint.Going data ∧
      l.core.endpoint.left data = r.chunk :: r.ended.core.endpoint.left data ∧
      r.ended.core.endpoint.chunksLeft < l.core.endpoint.chunksLeft := by
  have safe := (round?_sealed controls begun).2
  obtain ⟨cut, entered, next, entry, start⟩ := round?_eq_some begun
  have send := (transmitted_logs controls next entry).2.2
  have layout := transmitted_layout controls next entry
  have ended : r.ended = (l.transmitted entered r.chunk).flushDeferred.runActions := by
    rw [Round.ended, Round.unwound, Round.sent, start]
    rfl
  rw [← ended] at send layout
  obtain ⟨going, left⟩ := spells _ _ next
  have fewer := Endpoint.chunksLeft_advanced next
  rw [left, ← Endpoint.left_congr layout send, Endpoint.chunksLeft_congr send]
  exact ⟨safe, going.congr layout send, rfl, fewer⟩

/-- The round in which the lock is lost is the last one. If its chunk was taken and is not the last
of the message, the send ends as aborted. -/
theorem Rounds.cancelled_last (sends : Rounds data steps l rounds result after)
    (controls : l.core.Controls) (spells : l.core.endpoint.Spells data)
    (short : data.length ≤ 65535) (enough : l.core.endpoint.chunksLeft ≤ steps)
    (split : rounds = before ++ r :: later) (free : r.ended.core.endpoint.isSending = false) :
    later = [] ∧
      result = r.verdict (decide (rounds.map Round.chunk = l.core.endpoint.left data)) := by
  induction sends generalizing before with
  | exhausted | done | cancelled => cases before <;> cases split
  | failed begun failed =>
    cases before with
    | nil =>
      cases split
      exact ⟨rfl, by rw [Round.verdict, failed]⟩
    | cons _ before => cases before <;> cases split
  | @sent steps l after first rounds result begun taken rest ih =>
    obtain ⟨safe, going, left, fewer⟩ := round?_next controls spells begun
    have enough : first.ended.core.endpoint.chunksLeft ≤ steps :=
      Nat.le_of_lt_succ (Nat.lt_of_lt_of_le fewer enough)
    simp only [left, List.map_cons, List.cons_inj_right]
    cases before with
    | nil =>
      cases split
      obtain ⟨rfl, rfl⟩ := rest.stalled free going short enough
      refine ⟨rfl, ?_⟩
      rw [Round.verdict, taken]
      by_cases none : r.ended.core.endpoint.left data = []
      · simp only [none, List.map_nil, decide_true, if_true]
      · simp only [none, List.map_nil, Ne.symm none, decide_false, if_false, Bool.false_eq_true]
    | cons _ before =>
      cases split
      exact ih safe (going.spells short) enough rfl

/-- The chunks that have gone out are those of the message, from its first one on. -/
theorem Rounds.chunks (sends : Rounds data steps l rounds result after) (controls : l.core.Controls)
    (spells : l.core.endpoint.Spells data) (short : data.length ≤ 65535) :
    rounds.map Round.chunk <+: l.core.endpoint.left data := by
  induction sends with
  | exhausted | done | cancelled => exact List.nil_prefix
  | failed begun =>
    obtain ⟨-, -, left, -⟩ := round?_next controls spells begun
    rw [left]
    exact List.prefix_append [_] _
  | sent begun _ _ ih =>
    obtain ⟨safe, going, left, -⟩ := round?_next controls spells begun
    rw [left]
    exact List.cons_prefix_cons.mpr ⟨rfl, ih safe (going.spells short)⟩

/-- How a message goes out on the link, and what a send that has lost its lock still does: it ends
with the round in which that is so. -/
structure SendsInRounds (l : Link) (data : List UInt8) : Prop where
  logged : (l.send data).2.platform.updates =
    l.platform.updates ++ (l.sendUpdates data).flatMap Update.written
  /-- Only the tries of the rounds are parts of a message. -/
  updates : ∃ closing, l.sendUpdates data =
      (l.sendRounds data).flatMap (fun r => r.tries ++ r.replies) ++ closing ∧
    ∀ u ∈ closing, u.isMessage = false
  /-- After the last round there is at most a reply still to go out. -/
  consecutive : ∃ last, Consecutive l (l.sendRounds data) last ∧
    ((l.send data).2 = last ∨ (l.send data).2 = last.flushDeferred.runActions)
  sealed : ∀ r ∈ l.sendRounds data, r.Sealed
  chunks : (l.sendRounds data).map Round.chunk <+: Chunk.ofMessage l.core.endpoint.chunkLength data
  cancelled : ∀ before r later, l.sendRounds data = before ++ r :: later →
    (∃ m ∈ r.moments, m.core.endpoint.isSending = false) →
      later = [] ∧ (l.send data).1 = r.verdict (decide ((l.sendRounds data).map Round.chunk =
        Chunk.ofMessage l.core.endpoint.chunkLength data))

theorem Consecutive.around {first last : Endpoint .legacy}
    (consecutive : Consecutive (l.withEndpoint first) rounds after) :
    Consecutive l rounds (after.withEndpoint last) := by
  induction rounds generalizing l first with
  | nil => exact congrArg (·.withEndpoint last) consecutive
  | cons r rest ih =>
    obtain ⟨start, rest⟩ := consecutive
    exact ⟨start, ih rest⟩

theorem Idle.sendsInRounds {settings : Settings} (idle : l.Idle settings) (data : List UInt8) :
    l.SendsInRounds data := by
  have logged := (idle.send data).2
  rcases l.core.endpoint.beginSend_cases data.length with ⟨error, refused⟩ | ⟨free, begun⟩
  · have none : l.sendRounds data = [] := by simp only [sendRounds, refused]
    have silent : l.sendUpdates data = [] := by simp only [sendUpdates, refused]
    have same : (l.send data).2 = l := by
      unfold Link.send
      rw [refused]
      rfl
    refine ⟨logged, ⟨[], ?_, List.forall_mem_nil _⟩, ⟨l, ?_, .inl same⟩, ?_, ?_, ?_⟩ <;> rw [none]
    · rw [silent]
      rfl
    · rfl
    · exact List.forall_mem_nil _
    · exact List.nil_prefix
    · intro before r later split
      cases before <;> cases split
  · have short : data.length ≤ 65535 := Nat.le_of_not_lt fun long => by
      rw [Endpoint.beginSend, if_pos long] at begun
      cases begun
    have rounds : l.sendRounds data = chunkRounds data (data.length + 1)
        (l.withEndpoint (l.core.endpoint.begun data.length)) := by
      simp only [sendRounds, begun]
    have updates : l.sendUpdates data =
        (l.sendRounds data).flatMap (fun r => r.tries ++ r.replies) ++
          (l.finished data).replyUpdates := by
      rw [rounds, ← chunkUpdates_rounds]
      simp only [sendUpdates, begun]
      rfl
    have sent : l.send data = ((sendChunks data (data.length + 1)
        (l.withEndpoint (l.core.endpoint.begun data.length))).1,
          (l.finished data).flushDeferred.runActions) := by
      unfold Link.send
      rw [begun]
      rfl
    have sends := sendChunks_rounds data (data.length + 1)
      (l.withEndpoint (l.core.endpoint.begun data.length))
    rw [← rounds, ← congrArg Prod.fst sent] at sends
    have controls := (l.begun_logs data.length).controls idle.controls
    have spells := l.core.endpoint.spells_begun short
    have whole : (l.core.endpoint.begun data.length).left data =
        Chunk.ofMessage l.core.endpoint.chunkLength data := Endpoint.left_begun _ data rfl
    refine ⟨logged, ⟨_, updates, (replies_quiet (idle.finished data).2.controls).control⟩,
      ⟨_, sends.consecutive.around, .inr (congrArg Prod.snd sent)⟩, sends.sealed controls,
      ?_, ?_⟩ <;> rw [← whole]
    · exact sends.chunks controls spells short
    · intro before r later split lost
      obtain ⟨m, moment, free⟩ := lost
      have within : r ∈ l.sendRounds data := split ▸ List.mem_append_right before (.head later)
      have ended := (sends.sealed controls r within).lost m moment free
      exact sends.cancelled_last controls spells short (Nat.le_refl _) split ended

/-- While the legacy link sends a message, an event takes the send lock away where the client is
gone, has been silent for too long, starts over or writes a chunk that is refused; none gives it
back. Once it is lost, the chunk that is going out is the last, and only tries of its same bytes
follow. The send is then aborted, unless that chunk failed or was the last of the message. From the
first write of a chunk to its end no other frame is written; all that the events give rise to comes
after it. -/
theorem Reachable.send_cancels {settings : Settings} {serial : List UInt8}
    (reachable : Reachable settings serial l) (data : List UInt8) :
    (∀ packet c, (Core.listener.packet packet c).endpoint.isSending = true ↔
      c.endpoint.isSending = true ∧ ¬c.Revokes packet) ∧
    (∀ c, (Core.listener.tick c).endpoint.isSending = true ↔
      c.endpoint.isSending = true ∧ (c.connectTimeout.tick c.tick).phase ≠ .expired) ∧
    l.SendsInRounds data :=
  ⟨fun packet c => c.onPacket_isSending packet, Core.onTick_isSending,
    reachable.idle.sendsInRounds data⟩

/-- A client that has subscribed starts over while the first of three chunks is refused once: the
chunk is written again, the answer to the client follows, and the send is aborted. -/
theorem Reachable.send_cancels_init :
    let connects := [0x04, 0x3E, 0x13, 0x01, 0x00, 0x01, 0x08] ++ List.replicate 15 0x00
    let subscribes := [0x04, 0xFF, 0x0B, 0x01, 0x0C, 0x01, 0x08, 0x52, 0x00, 0x02, 0x00, 0x00,
      0x01, 0x00]
    let startsOver := [0x04, 0xFF, 0x0A, 0x13, 0x0C, 0x01, 0x08, 0x61, 0x00, 0x03, 0x01, 0x00, 0x00]
    let refuses := [0x04, 0x0E, 0x04, 0x01, 0x06, 0xFD, 0x64]
    let frees := [0x04, 0xFF, 0x02, 0x16, 0x0C]
    let operations : List Operation := [.power true,
      .script { queue := [.hci connects, .hci subscribes] }, .processEvent, .processEvent,
      .script { rules := [⟨0xFD06, [.hci startsOver, .hci refuses, .hci frees]⟩] }]
    let l := operations.foldl Link.operate (Link.create .standard [1, 2, 3, 4] {})
    let data := List.replicate 40 0x2A
    Reachable .standard [1, 2, 3, 4] l ∧
    (l.sendUpdates data).map (fun u => (u.isMessage, u.accepted)) =
      [(true, false), (true, true), (false, true)] ∧
    (∃ r, l.sendRounds data = [r] ∧
      r.writes.map (fun m => m.core.endpoint.isSending) = [true, false]) ∧
    (l.send data).1 = .error .aborted := by
  intro connects subscribes startsOver refuses frees operations l data
  have reachable : Reachable .standard [1, 2, 3, 4] l := (create {}).operations operations
  have sends := (reachable.send_cancels data).2.2
  have once : (l.sendRounds data).length = 1 := by decide +kernel
  have observed : (l.sendRounds data).map (fun r => (r.outcome.isOk,
      r.writes.map fun m => m.core.endpoint.isSending)) = [(true, [true, false])] := by
    decide +kernel
  have wide : l.core.endpoint.chunkLength = 20 := by decide +kernel
  obtain ⟨r, rounds⟩ := List.length_eq_one_iff.mp once
  rw [rounds] at observed
  obtain ⟨taken, locks⟩ := Prod.mk.inj (List.cons.inj observed).1
  have lost : false ∈ r.writes.map fun m => m.core.endpoint.isSending := by
    rw [locks]
    decide
  obtain ⟨m, written, free⟩ := List.mem_map.mp lost
  have several : [r].map Round.chunk ≠ Chunk.ofMessage 20 data := by
    rw [Chunk.ofMessage, Chunk.carrying, if_neg (by decide), Chunk.carrying]
    exact fun same => List.cons_ne_nil _ _ (List.cons.inj same).2.symm
  have aborted := (sends.cancelled [] r [] rounds ⟨m, List.mem_append_left _ written, free⟩).2
  rw [wide, rounds, decide_eq_false several, Round.verdict] at aborted
  refine ⟨reachable, by decide +kernel, ⟨r, rounds, locks⟩, aborted.trans ?_⟩
  cases outcome : r.outcome with
  | error error =>
    rw [outcome] at taken
    cases taken
  | ok => rfl

end Link

end Legacy

end CardLink
