import CardLink.Proofs.Framing.History
import CardLink.Proofs.Framing.Lengths
import CardLink.Proofs.Framing.Requests
import CardLink.Proofs.Framing.Sending
import CardLink.Proofs.Since

namespace CardLink

variable {kind : LinkKind} {settings : Settings}

/-- The length of a version reply: channel, tag and body. -/
def LinkKind.versionLength (kind : LinkKind) : Nat :=
  kind.channelWidth + 1 + kind.versionBody.length

/-- A reply that the owner of an endpoint makes up: the report of a refused chunk, or the answer to
a host that asks for a channel. -/
inductive OwnReply : LinkKind → List UInt8 → Prop
  | error {kind : LinkKind} {layout : Layout kind} {error : ChunkError} {reply : List UInt8}
      (reported : layout.errorReply error = some reply) : OwnReply kind reply
  | channel (e : Endpoint .usb) (channel : UInt16) (word : UInt32) :
      OwnReply .usb (e.controlHeader channel Tag.allocateChannel.byte ++ Word.big32 word)

/-- The owner queues only replies of its own, and changes the chunk length within the settings. -/
def Operation.Proper (settings : Settings) : Operation kind → Prop
  | queueReply reply => OwnReply kind reply
  | retune change => change.Of settings
  | _ => True

/-- The chunk that is handed out, to be transmitted. -/
def Outcome.chunk? : Outcome → Option (List UInt8)
  | received (.ok (.reply reply)) => some reply
  | chunk given => given
  | _ => none

namespace Endpoint

variable {e : Endpoint kind}

/-- The operations on a link that is brought up with these settings, each with the endpoint that it
met. -/
inductive Course (settings : Settings) :
    List (Endpoint kind × Operation kind) → Endpoint kind → Prop
  | start : Course settings [] { layout := settings.layout kind }
  | next {past : List (Endpoint kind × Operation kind)} {e : Endpoint kind}
      (course : Course settings past e) (operation : Operation kind)
      (proper : operation.Proper settings) :
      Course settings (past ++ [(e, operation)]) (e.operate operation).2

/-- The chunk that the operation builds. It is handed out at once, or held. -/
def built? (e : Endpoint kind) : Operation kind → Option (List UInt8)
  | .nextChunk data => (e.nextChunk data).1
  | .receive chunk =>
    match (e.receive chunk).1 with
    | .ok (.reply reply) => some reply
    | .ok .deferred => (e.receive chunk).2.held
    | _ => none
  | .queueReply reply => some (e.pad reply)
  | _ => none

/-- The operation holds the chunk that it builds. -/
def Defers (event : Endpoint kind × Operation kind) : Prop :=
  event.1.built? event.2 ≠ none ∧ (event.1.operate event.2).1.chunk? = none

/-- A reply that the endpoint makes up itself, before it is padded. -/
inductive Answers (e : Endpoint kind) : List UInt8 → Prop
  | echo {chunk : List UInt8}
      (tagged : Chunk.tag? kind chunk = some .init ∨ Chunk.tag? kind chunk = some .echo) :
      Answers e (e.echo chunk)
  | version (channel : UInt16) :
      Answers e (e.controlHeader channel Tag.version.byte ++ kind.versionBody)
  | mtu (channel : UInt16) : Answers e (e.controlHeader channel Tag.mtu.byte ++
      [0x00, 0x00, 0x00, 0x01, UInt8.ofNat e.chunkLength])

/-- A chunk keeps to the chunk length, unless it is a version reply that is too long for it; a
padded one has exactly that length. -/
structure Keeps (e : Endpoint kind) (chunk : List UInt8) : Prop where
  fits : chunk.length ≤ e.chunkLength ↔
    ¬(Chunk.tag? kind chunk = some .version ∧ e.chunkLength < kind.versionLength)
  full : kind.padded = true → chunk.length = e.chunkLength

theorem controlHeader_length (e : Endpoint kind) (channel : UInt16) (tag : UInt8) :
    (e.controlHeader channel tag).length = kind.channelWidth + 1 := by
  cases kind <;> rfl

/-- What is not longer than the chunk length keeps to it once it is padded, unless it is taken for a
version reply. -/
theorem keeps_pad (least : kind.leastChunkLength ≤ e.chunkLength) {bytes : List UInt8}
    (short : bytes.length ≤ e.chunkLength)
    (other : Chunk.tag? kind bytes ≠ some .version ∨ kind.versionLength ≤ e.chunkLength) :
    e.Keeps (e.pad bytes) := by
  unfold pad
  split
  · rename_i padded
    have length : (bytes ++ List.replicate (e.chunkLength - bytes.length) 0).length =
        e.chunkLength := by
      rw [List.length_append, List.length_replicate]
      omega
    refine ⟨iff_of_true (Nat.le_of_eq length) ?_, fun _ => length⟩
    have version : kind.versionLength ≤ kind.leastChunkLength := by
      cases kind with
      | usb => decide
      | legacy | negotiated => cases padded
    exact fun both => absurd both.2 (Nat.not_lt.mpr (Nat.le_trans version least))
  · rename_i bare
    refine ⟨iff_of_true short ?_, fun padded => absurd padded bare⟩
    rintro ⟨tagged, long⟩
    rcases other with untagged | room
    · exact untagged tagged
    · exact absurd long (Nat.not_lt.mpr room)

/-- A version reply keeps to the chunk length just if there is room for it. -/
theorem keeps_version (least : kind.leastChunkLength ≤ e.chunkLength) (channel : UInt16) :
    e.Keeps (e.pad (e.controlHeader channel Tag.version.byte ++ kind.versionBody)) := by
  have length : (e.controlHeader channel Tag.version.byte ++ kind.versionBody).length =
      kind.versionLength := by
    rw [List.length_append, controlHeader_length, LinkKind.versionLength]
  by_cases room : kind.versionLength ≤ e.chunkLength
  · exact keeps_pad least (length ▸ room) (.inr room)
  · have bare : kind.padded = false := by
      revert least room
      cases kind with
      | usb =>
        intro least room
        exact absurd (Nat.le_trans (by decide : 7 ≤ 8) least) room
      | legacy | negotiated => intros; rfl
    have tagged : Chunk.tag? kind (e.controlHeader channel Tag.version.byte ++ kind.versionBody) =
        some .version := by
      rw [tag?_controlHeader]
      cases kind <;> rfl
    simp only [pad, bare, Bool.false_eq_true, if_false]
    refine ⟨?_, fun padded => absurd padded (by simp [bare])⟩
    rw [length, tagged]
    simp [room, Nat.not_le.mp room]

/-- The replies of an endpoint. -/
theorem Answers.keeps (least : kind.leastChunkLength ≤ e.chunkLength) {reply : List UInt8}
    (answers : e.Answers reply) : e.Keeps (e.pad reply) := by
  cases answers with
  | version channel => exact keeps_version least channel
  | mtu channel =>
    refine keeps_pad least ?_ (.inl ?_)
    · rw [List.length_append, controlHeader_length]
      exact least
    · rw [tag?_controlHeader]
      cases kind <;> decide
  | @echo chunk tagged =>
    refine keeps_pad least (List.length_take_le ..) (.inl (echo_tag ?_))
    rcases tagged with tagged | tagged <;> simp [tagged]

theorem ownReply_keeps (least : kind.leastChunkLength ≤ e.chunkLength) {reply : List UInt8}
    (own : OwnReply kind reply) : e.Keeps (e.pad reply) := by
  cases own with
  | @error _ layout error _ reported =>
    obtain ⟨tag, reports, rfl⟩ := Option.map_eq_some_iff.mp reported
    -- Only the legacy link reports errors.
    cases kind with
    | negotiated | usb => cases reports
    | legacy =>
      cases reports
      exact keeps_pad least (Nat.le_trans (by decide : 5 ≤ 6) least) (.inl nofun)
  | channel _ channel word =>
    exact keeps_pad least (Nat.le_trans (by decide : 7 ≤ 8) least)
      (.inr (Nat.le_trans (by decide : 7 ≤ 8) least))

theorem nextChunk_keeps (least : kind.leastChunkLength ≤ e.chunkLength) {data chunk : List UInt8}
    (next : (e.nextChunk data).1 = some chunk) : e.Keeps chunk := by
  obtain ⟨-, -, rfl, -⟩ := nextChunk_some (Prod.ext next rfl)
  have header : e.messageHeader.length ≤ kind.channelWidth + 5 := by
    rw [messageHeader_eq, Chunk.header_length]
    unfold LinkKind.headerLength
    split <;> omega
  have part := List.length_take_le e.nextCount (data.drop e.send.offset)
  refine keeps_pad least ?_ (.inl ?_)
  · unfold nextCount LinkKind.leastChunkLength at *
    rw [List.length_append]
    omega
  · rw [messageHeader_eq, Chunk.tag?_header]
    exact nofun

/-- A reply is built, by the endpoint itself or once it has started over. -/
def Replies (e : Endpoint kind) (answered : Except ChunkError Received × Endpoint kind) : Prop :=
  ∃ (base : Endpoint kind) (reply : List UInt8), e.Answers reply ∧ (base = e ∨ base = e.restart) ∧
    answered = (.ok (base.answer reply).1, (base.answer reply).2)

/-- Nothing is built, and what is held stays. -/
def Unheeded (e : Endpoint kind) (answered : Except ChunkError Received × Endpoint kind) : Prop :=
  (∀ reply, answered.1 ≠ .ok (.reply reply)) ∧ answered.1 ≠ .ok .deferred ∧
    answered.2.held = e.held

theorem Unheeded.built? {asked : List UInt8} (unheeded : e.Unheeded (e.receive asked)) :
    e.built? (.receive asked) = none := by
  obtain ⟨unanswered, undeferred, -⟩ := unheeded
  unfold Endpoint.built?
  dsimp only
  split
  · rename_i given answered
    exact absurd answered (unanswered given)
  · rename_i answered
    exact absurd answered undeferred
  · rfl

theorem store_unheeded (e : Endpoint kind) (payload : List UInt8) :
    e.Unheeded (.ok (e.store payload).1, (e.store payload).2) := by
  unfold Unheeded store
  dsimp only
  split <;> exact ⟨by simp, by simp, rfl⟩

/-- A control chunk that asks for something is answered with a reply; any other is not. -/
theorem receive_replies_or_unheeded (e : Endpoint kind) (chunk : List UInt8) :
    e.Replies (e.receive chunk) ∨ e.Unheeded (e.receive chunk) := by
  have checked {tag : Tag} {base : Endpoint kind} {reply : List UInt8}
      (tagged : Chunk.tag? kind chunk = some tag) (started : base = e ∨ base = e.restart)
      (answers : e.Answers reply)
      (performed : (∃ error, e.perform tag (channelOf kind chunk) chunk (Chunk.body kind chunk) =
          .error error) ∨
        e.perform tag (channelOf kind chunk) chunk (Chunk.body kind chunk) =
          .ok (base.answer reply)) :
      e.Replies (e.receive chunk) ∨ e.Unheeded (e.receive chunk) := by
    rw [receive, dispatch_tagged tagged]
    rcases performed with ⟨error, performed⟩ | performed <;> rw [performed]
    · exact .inr ⟨by simp, by simp, rfl⟩
    · exact .inl ⟨base, reply, answers, started, rfl⟩
  have reception := receive_reception e chunk
  generalize same : e.receive chunk = answered at reception
  obtain ⟨answer, after⟩ := answered
  cases reception with
  | refused | unknown | allocated | dropped | aborted => exact .inr ⟨by simp, by simp, rfl⟩
  | first => exact .inr (store_unheeded (e.opened chunk) _)
  | next => exact .inr (store_unheeded e _)
  | restarted tagged => exact .inl ⟨e.restart, _, .echo (.inl tagged), .inr rfl, rfl⟩
  | answered reply tagged =>
    rw [← same]
    rcases tagged with tagged | tagged | tagged
    · refine checked tagged (.inl rfl) (.version (channelOf kind chunk)) ?_
      simp only [perform]
      split
      · exact .inl ⟨_, rfl⟩
      · exact .inr rfl
    · refine checked tagged (.inl rfl) (.echo (.inr tagged)) ?_
      simp only [perform]
      split
      · exact .inl ⟨_, rfl⟩
      · exact .inr rfl
    · rw [receive, dispatch_tagged tagged]
      exact .inl ⟨e, _, .mtu _, .inl rfl, rfl⟩

theorem answer_built (base : Endpoint kind) (reply : List UInt8) :
    base.answer reply = (.reply (base.pad reply), base) ∨
      base.answer reply = (.deferred, { base with held := some (base.pad reply) }) := by
  unfold answer queueReply
  split
  · rename_i given
    split at given <;> cases given
    exact .inl rfl
  · rename_i none
    split at none <;> cases none
    exact .inr rfl

/-- Whatever an operation builds keeps to the chunk length that the endpoint has then. -/
theorem built?_keeps (least : kind.leastChunkLength ≤ e.chunkLength) {operation : Operation kind}
    (proper : operation.Proper settings) {chunk : List UInt8}
    (built : e.built? operation = some chunk) : e.Keeps chunk := by
  cases operation with
  | nextChunk data => exact nextChunk_keeps least built
  | queueReply reply =>
    cases built
    exact ownReply_keeps least proper
  | receive asked =>
    rcases e.receive_replies_or_unheeded asked with
      ⟨base, reply, answers, started, same⟩ | unheeded
    · have keeps := answers.keeps least
      have pad : base.pad reply = e.pad reply := by
        rcases started with rfl | rfl <;> rfl
      simp only [built?, same] at built
      rcases base.answer_built reply with given | given <;> rw [given] at built <;> cases built <;>
        exact pad ▸ keeps
    · cases unheeded.built?.symm.trans built
  | _ => cases built

/-- An operation that holds what it builds holds nothing else from then on; any other leaves what is
held, or drops it. -/
theorem operate_held (e : Endpoint kind) (operation : Operation kind) :
    Defers (e, operation) ∧ (e.operate operation).2.held = e.built? operation ∨
      ¬Defers (e, operation) ∧
        ((e.operate operation).2.held = e.held ∨ (e.operate operation).2.held = none) := by
  have builds_nothing (none : e.built? operation = none) : ¬Defers (e, operation) :=
    fun defers => defers.1 none
  cases operation with
  | nextChunk data => exact .inr ⟨fun defers => defers.1 defers.2, .inl (e.nextChunk_held data)⟩
  | queueReply reply =>
    simp only [Defers, built?, operate, queueReply]
    split
    · exact .inl ⟨⟨Option.some_ne_none _, rfl⟩, rfl⟩
    · exact .inr ⟨fun defers => Option.some_ne_none _ defers.2, .inl rfl⟩
  | receive asked =>
    rcases e.receive_replies_or_unheeded asked with
      ⟨base, reply, answers, started, same⟩ | unheeded
    · have held : base.held = e.held := by
        rcases started with rfl | rfl <;> rfl
      simp only [Defers, built?, operate, same]
      rcases base.answer_built reply with given | given <;> rw [given]
      · exact .inr ⟨fun defers => Option.some_ne_none _ defers.2, .inl held⟩
      · exact .inl ⟨⟨Option.some_ne_none _, rfl⟩, rfl⟩
    · exact .inr ⟨builds_nothing unheeded.built?, .inl unheeded.2.2⟩
  | takeDeferred =>
    refine .inr ⟨builds_nothing rfl, ?_⟩
    simp only [operate, takeDeferred]
    split
    · exact .inl rfl
    · exact .inr rfl
  | beginSend length =>
    refine .inr ⟨builds_nothing rfl, .inl ?_⟩
    rcases e.beginSend_cases length with ⟨error, same⟩ | ⟨-, same⟩ <;> simp only [operate, same]
    rfl
  | enterTransmit =>
    refine .inr ⟨builds_nothing rfl, .inl ?_⟩
    simp only [operate, enterTransmit]
    split <;> rfl
  | takeComplete =>
    refine .inr ⟨builds_nothing rfl, .inl ?_⟩
    simp only [operate, takeComplete]
    split <;> rfl
  | reset => exact .inr ⟨builds_nothing rfl, .inr rfl⟩
  | leaveTransmit | finishSend | resetReception | retune =>
    exact .inr ⟨builds_nothing rfl, .inl rfl⟩

/-- What an endpoint holds was built by the last operation that held what it built. -/
theorem Course.held_since {past : List (Endpoint kind × Operation kind)}
    (course : Course settings past e) {chunk : List UInt8} (held : e.held = some chunk) :
    Since (fun event => event.1.built? event.2 = some chunk ∧ Defers event) Defers past := by
  induction course with
  | start => cases held
  | @next past e course operation proper ih =>
    rw [since_append]
    rcases e.operate_held operation with ⟨defers, holds⟩ | ⟨stays, same | none⟩
    · exact .inl ⟨holds.symm.trans held, defers⟩
    · exact .inr ⟨ih (same.symm.trans held), stays⟩
    · cases none.symm.trans held

/-- What is handed out has been built by the same operation, or was held. -/
theorem chunk?_built {operation : Operation kind} {chunk : List UInt8}
    (given : (e.operate operation).1.chunk? = some chunk) :
    e.built? operation = some chunk ∨ operation = .takeDeferred ∧ e.held = some chunk := by
  cases operation with
  | nextChunk data => exact .inl given
  | queueReply reply =>
    simp only [built?, operate, queueReply] at given ⊢
    split at given
    · cases given
    · exact .inl given
  | receive asked =>
    left
    simp only [built?, operate] at given ⊢
    unfold Outcome.chunk? at given
    split at given
    · rename_i reply answered
      rw [Outcome.received.inj answered]
      exact given
    · rename_i answered
      cases answered
    · cases given
  | takeDeferred =>
    refine .inr ⟨rfl, ?_⟩
    simp only [operate, takeDeferred] at given
    split at given
    · cases given
    · exact given
  | _ => cases given

/-- The chunk length stays within the bounds of the settings. -/
theorem operate_sound (sound : e.layout.Sound) (s : settings.Proportioned)
    {operation : Operation kind} (proper : operation.Proper settings) :
    (e.operate operation).2.layout.Sound := by
  have same {after : Endpoint kind} (keeps : e.KeepsSend after) : after.layout.Sound :=
    keeps.layout ▸ sound
  cases operation with
  | receive chunk => exact same (e.receive_keepsSend chunk)
  | queueReply reply => exact same (e.queueReply_keepsSend reply)
  | takeDeferred => exact same e.takeDeferred_keepsSend
  | takeComplete => exact same e.takeComplete_keepsSend
  | reset => exact same e.reset_keepsSend
  | nextChunk data => exact e.nextChunk_layout data ▸ sound
  | beginSend length =>
    rcases e.beginSend_cases length with ⟨error, begun⟩ | ⟨-, begun⟩ <;>
      simp only [operate, begun] <;> exact sound
  | enterTransmit =>
    simp only [operate, enterTransmit]
    split <;> exact sound
  | leaveTransmit | finishSend | resetReception => exact sound
  | retune change =>
    exact retune_sound sound s fun other member => List.mem_singleton.mp member ▸ proper

theorem Course.sound {past : List (Endpoint kind × Operation kind)}
    (course : Course settings past e) (s : settings.Proportioned) : e.layout.Sound ∧
      ∀ event ∈ past, event.1.layout.Sound ∧ event.2.Proper settings := by
  induction course with
  | start => exact ⟨Layout.sound_layout s kind, nofun⟩
  | next course operation proper ih =>
    refine ⟨operate_sound ih.1 s proper, fun event member => ?_⟩
    rcases List.mem_append.mp member with old | new
    · exact ih.2 event old
    · obtain rfl := List.mem_singleton.mp new
      exact ⟨ih.1, proper⟩

/-- The operation that has built a chunk which this one hands out: it is the same one, or the last
that has held what it built. -/
def MadeBy (past : List (Endpoint kind × Operation kind)) (e : Endpoint kind)
    (operation : Operation kind) (made : Endpoint kind × Operation kind) : Prop :=
  made = (e, operation) ∨
    operation = .takeDeferred ∧ Defers made ∧ Since (fun event => event = made) Defers past

theorem Course.chunk?_keeps {past : List (Endpoint kind × Operation kind)}
    (course : Course settings past e) (s : settings.Proportioned) {operation : Operation kind}
    (proper : operation.Proper settings) {chunk : List UInt8}
    (given : (e.operate operation).1.chunk? = some chunk) :
    ∃ made, MadeBy past e operation made ∧ made.1.built? made.2 = some chunk ∧
      made.1.Keeps chunk := by
  obtain ⟨sound, before⟩ := course.sound s
  rcases chunk?_built given with built | ⟨rfl, held⟩
  · exact ⟨(e, operation), .inl rfl, built, built?_keeps sound.least proper built⟩
  · obtain ⟨older, made, newer, split, ⟨built, defers⟩, still⟩ := course.held_since held
    obtain ⟨sound, proper⟩ := before made (by rw [split]; simp)
    exact ⟨made, .inr ⟨rfl, defers, older, made, newer, split, rfl, still⟩, built,
      built?_keeps sound.least proper built⟩

end Endpoint

end CardLink
