import CardLink.Proofs.Framing.Likeness
import CardLink.Proofs.Framing.Reassembly
import CardLink.Proofs.Framing.Sending

namespace CardLink.Endpoint

variable {kind : LinkKind} {e after a b : Endpoint kind}

/-- The reception and the send are given up; what has been received before stays as it is. -/
structure GivenUp (e after : Endpoint kind) : Prop where
  buffer : after.buffer = e.buffer
  message : after.message = e.message
  send : after.send = e.send
  expected : after.session.expected = 0
  remaining : after.session.remaining = 0
  total : after.session.total = 0
  cursor : after.session.cursor = 0
  ready : after.ready = false
  free : after.isSending = false

theorem restart_givenUp (e : Endpoint kind) : e.GivenUp e.restart :=
  ⟨rfl, rfl, rfl, rfl, rfl, rfl, rfl, rfl, rfl⟩

theorem queueReply_givenUp (given : e.GivenUp after) (reply : List UInt8) :
    e.GivenUp (after.queueReply reply).2 := by
  unfold queueReply
  split
  · exact ⟨given.buffer, given.message, given.send, given.expected, given.remaining, given.total,
      given.cursor, given.ready, given.free⟩
  · exact given

/-- A chunk that is refused, starts over or aborts leaves nothing under way. -/
theorem Cancels.givenUp {chunk : List UInt8} (cancels : e.Cancels chunk) :
    e.GivenUp (e.receive chunk).2 := by
  have reception := e.receive_reception chunk
  unfold Cancels at cancels
  generalize (e.receive chunk).1 = answer at *
  generalize (e.receive chunk).2 = after at *
  cases reception with
  | refused | aborted => exact restart_givenUp e
  | restarted =>
    rw [answer_endpoint]
    exact queueReply_givenUp (restart_givenUp e) _
  | unknown tagged | allocated tagged | dropped tagged => simp [tagged] at cancels
  | answered reply tagged => rcases tagged with tagged | tagged | tagged <;> simp [tagged] at cancels
  | first tagged | next tagged => simp [tagged] at cancels

/-- Nothing is being received or sent, and no transmit is on the stack. -/
structure Receptive (e : Endpoint kind) : Prop where
  idle : e.session.expected = 0
  free : e.isSending = false
  outside : e.session.lock.inTransmit = false

/-- Two links of one layout, on neither of which anything goes out. -/
structure Silent (a b : Endpoint kind) : Prop where
  layout : a.layout = b.layout
  free : a.isSending = false ∧ b.isSending = false
  outside : a.session.lock.inTransmit = false ∧ b.session.lock.inTransmit = false

/-- Both wait for a first chunk, or for the same next one of a message of which they hold the same
bytes. -/
structure Abreast (a b : Endpoint kind) : Prop extends a.Silent b where
  expected : a.session.expected = b.session.expected
  underWay : a.session.expected ≠ 0 → a.session.channel = b.session.channel ∧
    a.session.total = b.session.total ∧ ∃ bytes, a.Stored bytes ∧ b.Stored bytes

theorem Receptive.abreast (first : a.Receptive) (second : b.Receptive)
    (layout : a.layout = b.layout) : a.Abreast b where
  layout := layout
  free := ⟨first.free, second.free⟩
  outside := ⟨first.outside, second.outside⟩
  expected := first.idle.trans second.idle.symm
  underWay later := absurd first.idle later

theorem KeepsSend.silent {c : Endpoint kind} (keeps : e.KeepsSend c) (free : e.isSending = false)
    (outside : e.session.lock.inTransmit = false) :
    c.isSending = false ∧ c.session.lock.inTransmit = false := by
  constructor
  · rw [← Bool.not_eq_true]
    intro sending
    rw [keeps.unbegun sending] at free
    cases free
  · rw [← outside, SendLock.inTransmit, keeps.depth, SendLock.inTransmit]

theorem Silent.keeps {c d : Endpoint kind} (silent : a.Silent b) (first : a.KeepsSend c)
    (second : b.KeepsSend d) : c.Silent d := by
  obtain ⟨free, outside⟩ := first.silent silent.free.1 silent.outside.1
  obtain ⟨free', outside'⟩ := second.silent silent.free.2 silent.outside.2
  exact ⟨first.layout.trans (silent.layout.trans second.layout.symm), ⟨free, free'⟩,
    ⟨outside, outside'⟩⟩

theorem answer_outside (outside : e.session.lock.inTransmit = false) (reply : List UInt8) :
    e.answer reply = (.reply (e.pad reply), e) := by
  simp [answer, queueReply, outside]

/-- Two links that hold the same bytes of a message store the next ones alike. -/
theorem Silent.store {bytes : List UInt8} (silent : a.Silent b)
    (expected : a.session.expected = b.session.expected)
    (channel : a.session.channel = b.session.channel)
    (total : a.session.total = b.session.total) (first : a.Stored bytes) (second : b.Stored bytes)
    (payload : List UInt8) : Alike Abreast (a.store payload) (b.store payload) := by
  have still := silent.keeps (a.store_keepsSend payload) (b.store_keepsSend payload)
  have cursor := first.cursor.trans second.cursor.symm
  have remaining : a.session.remaining = b.session.remaining := by
    have balance := first.balance
    have balance' := second.balance
    omega
  by_cases short : payload.length < a.session.remaining
  · obtain ⟨answer, session, stored⟩ := first.more short
    obtain ⟨answer', session', stored'⟩ := second.more (remaining ▸ short)
    refine ⟨answer.trans answer'.symm, fun _ complete => ?_, still, ?_, fun _ => ?_⟩
    · rw [answer] at complete
      cases complete
    · simp only [session, session', Session.advance, remaining, expected]
    · rw [session, session']
      exact ⟨channel, total, _, stored, stored'⟩
  · have enough := Nat.le_of_not_lt short
    obtain ⟨answer, delivered, -⟩ := first.last enough
    obtain ⟨answer', delivered', -⟩ := second.last (remaining ▸ enough)
    rw [← total] at answer' delivered'
    exact ⟨answer.trans answer'.symm,
      fun _ _ => delivered.message.trans delivered'.message.symm, still,
      delivered.idle.trans delivered'.idle.symm, (absurd delivered.idle ·)⟩

theorem abreast_bisimulation : Bisimulation (@Abreast kind) where
  layout abreast := abreast.layout
  sending abreast := abreast.free.1.trans abreast.free.2.symm
  expected abreast := abreast.expected
  channel abreast later := (abreast.underWay later).1
  restart {a b} abreast := ⟨abreast.toSilent.keeps a.restart_keepsSend b.restart_keepsSend, rfl,
    (absurd rfl ·)⟩
  answer {a b} abreast reply := by
    have pad : a.pad reply = b.pad reply := by
      simp only [Endpoint.pad, Endpoint.chunkLength, abreast.layout]
    rw [answer_outside abreast.outside.1, answer_outside abreast.outside.2, pad]
    exact ⟨rfl, fun _ complete => (by cases complete), abreast⟩
  first {a b} abreast total channel payload := by
    have opened (e : Endpoint kind) : e.KeepsSend (e.starting total channel) := ⟨rfl, rfl, rfl, id⟩
    have nothing (e : Endpoint kind) : (e.starting total channel).Stored [] :=
      ⟨rfl, Nat.zero_add _, rfl⟩
    exact (abreast.toSilent.keeps (opened a) (opened b)).store rfl rfl rfl (nothing a) (nothing b)
      payload
  next abreast later payload := by
    obtain ⟨channel, total, bytes, first, second⟩ := abreast.underWay later
    exact abreast.toSilent.store abreast.expected channel total first second payload

theorem store_idle {payload : List UInt8} {total : Nat}
    (complete : (e.store payload).1 = .complete total) :
    (e.store payload).2.session.expected = 0 := by
  by_cases short : payload.length < e.session.remaining
  · rw [store_needMore short] at complete
    cases complete
  · rw [store_complete (Nat.le_of_not_lt short)]
    exact if_pos (Nat.sub_self _)

/-- Only a link that sends nothing completes a message, and then nothing is under way. -/
theorem receive_completes {chunk : List UInt8} {total : Nat}
    (complete : (e.receive chunk).1 = .ok (.complete total)) :
    e.isSending = false ∧ (e.receive chunk).2.session.expected = 0 := by
  have unanswered (e : Endpoint kind) (reply : List UInt8) :
      (.ok (e.answer reply).1 : Except ChunkError Received) ≠ .ok (.complete total) := by
    rcases e.answer_received reply with ⟨given, answer⟩ | answer <;> rw [answer] <;> exact nofun
  have reception := e.receive_reception chunk
  generalize (e.receive chunk).1 = answer at *
  generalize (e.receive chunk).2 = after at *
  cases reception with
  | refused | unknown | allocated | dropped | aborted => cases complete
  | restarted | answered => exact absurd complete (unanswered _ _)
  | first tagged free | next tagged free => exact ⟨free, store_idle (Except.ok.inj complete)⟩

/-- After a failure, a restart, an abort or a whole message the link is open to anything, unless it
has been in the middle of a transmit. -/
theorem receive_receptive {chunk : List UInt8} (outside : e.session.lock.inTransmit = false)
    (ended : e.Cancels chunk ∨ ∃ total, (e.receive chunk).1 = .ok (.complete total)) :
    (e.receive chunk).2.Receptive := by
  have depth := (e.receive_keepsSend chunk).depth
  have still : (e.receive chunk).2.session.lock.inTransmit = false := by
    rw [SendLock.inTransmit, depth]
    exact outside
  rcases ended with cancels | ⟨total, complete⟩
  · exact ⟨cancels.givenUp.expected, cancels.givenUp.free, still⟩
  · obtain ⟨free, idle⟩ := receive_completes complete
    exact ⟨idle, ((e.receive_keepsSend chunk).silent free outside).1, still⟩

/-- A chunk that is refused gives up the reception and the send, as one that starts over or aborts
does, and it leaves the buffer and the last message alone. From then on, as after a whole message,
nothing of what went before can be told from the answers to later chunks or from the messages they
complete: they are those of any other link of the same layout on which nothing is under way, such as
a fresh one. -/
theorem receptions_resume :
    (∀ (e : Endpoint kind) (chunk : List UInt8), e.Cancels chunk →
      e.GivenUp (e.receive chunk).2) ∧
    (∀ a b : Endpoint kind, a.layout = b.layout → a.Receptive → b.Receptive →
      ∀ chunks, a.observations chunks = b.observations chunks) ∧
    ∀ (e : Endpoint kind) (chunk : List UInt8), e.session.lock.inTransmit = false →
      (e.Cancels chunk ∨ ∃ total, (e.receive chunk).1 = .ok (.complete total)) →
      ∀ chunks, (e.receive chunk).2.observations chunks =
        ({ layout := e.layout } : Endpoint kind).observations chunks := by
  have alike (a b : Endpoint kind) (layout : a.layout = b.layout) (first : a.Receptive)
      (second : b.Receptive) (chunks : List (List UInt8)) :
      a.observations chunks = b.observations chunks :=
    abreast_bisimulation.observations (first.abreast second layout) chunks
  refine ⟨fun e chunk cancels => cancels.givenUp, alike, fun e chunk outside ended => ?_⟩
  have fresh : ({ layout := e.layout } : Endpoint kind).Receptive := ⟨rfl, rfl, rfl⟩
  exact alike _ _ (e.receive_keepsSend chunk).layout (receive_receptive outside ended) fresh

/-- A report on another channel comes in the middle of a message; and a link that holds an older
message takes on another one. -/
theorem receptions_resume_refused :
    let fresh : Endpoint .usb := { layout := .usb 8 }
    let waiting := (fresh.receive [1, 2, 5, 0, 0, 0, 9, 0xAA]).2
    let other : List UInt8 := [3, 4, 5, 0, 1, 0xBB]
    let used : Endpoint .usb :=
      { layout := .usb 8, buffer := List.replicate 260 7, messageLength := 9, ready := true,
        session := { total := 9, cursor := 9, channel := 5 } }
    (waiting.session.expected = 1 ∧ waiting.Cancels other ∧ used.Receptive ∧ fresh.Receptive) ∧
    waiting.GivenUp (waiting.receive other).2 ∧
    (∀ chunks, used.observations chunks = fresh.observations chunks) ∧
    ∀ chunks, (waiting.receive other).2.observations chunks = fresh.observations chunks := by
  intro fresh waiting other used
  have cancels : waiting.Cancels other := .inl ⟨.channelMismatch 0x0102 0x0304, rfl⟩
  have opened : fresh.Receptive ∧ used.Receptive := ⟨⟨rfl, rfl, rfl⟩, ⟨rfl, rfl, rfl⟩⟩
  exact ⟨⟨rfl, cancels, opened.2, opened.1⟩, receptions_resume.1 waiting other cancels,
    receptions_resume.2.1 used fresh rfl opened.2 opened.1,
    receptions_resume.2.2 waiting other rfl (.inl cancels)⟩

end CardLink.Endpoint
