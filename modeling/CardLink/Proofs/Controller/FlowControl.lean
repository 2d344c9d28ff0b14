import CardLink.Proofs.Controller.Steadiness

namespace CardLink.Controller

/-- A queued chunk opens a message while nothing is unanswered, or follows the one that has just been
acknowledged. -/
def InTurn (waiting : List (List UInt8)) (acknowledged : Prop) (chunk : List UInt8) : Prop :=
  Chunk.sequence .negotiated chunk = 0 ∧ waiting = [] ∨
    acknowledged ∧ ∃ previous, waiting = [previous] ∧ OfMessage previous ∧
      Chunk.sequence .negotiated previous + 1 = Chunk.sequence .negotiated chunk

namespace Exchange

/-- The values that have been queued on the way from one exchange to the next. -/
def queued (x after : Exchange) : List (List UInt8) := after.notices.drop x.notices.length

/-- What is unanswered of the notifications: at most one chunk, the one cut off last while it is in
flight and its message goes on, and none while a first chunk waits for a write response. -/
structure Alone (x : Exchange) (waiting : List (List UInt8)) : Prop where
  single : (waiting.filter (OfMessage ·)).length ≤ 1
  flying : x.chunkInFlight = true → ∀ value ∈ waiting, OfMessage value
  current : x.chunkInFlight = true → x.endpoint.isSending = true → ∀ value ∈ waiting,
    Chunk.sequence .negotiated value + 1 = x.endpoint.send.sequence
  parted : x.held = some true → ∀ value ∈ waiting, ¬OfMessage value
  first : x.held = some true → x.endpoint.isSending = true → x.endpoint.send.sequence = 1

variable {x after : Exchange} {waiting : List (List UInt8)}

/-- While a chunk is in flight, it alone is unanswered, if it was not lost. -/
theorem Alone.flying_cases (alone : x.Alone waiting) (flying : x.chunkInFlight = true) :
    waiting = [] ∨ ∃ chunk, waiting = [chunk] ∧ OfMessage chunk := by
  have all := alone.flying flying
  have single := alone.single
  rw [List.filter_eq_self.mpr fun value member => decide_eq_true (all value member)] at single
  match waiting with
  | [] => exact .inl rfl
  | [chunk] => exact .inr ⟨chunk, rfl, all chunk List.mem_cons_self⟩
  | _ :: _ :: _ => simp at single

theorem queued_append {added : List (List UInt8)} (more : after.notices = x.notices ++ added) :
    x.queued after = added := by
  rw [queued, more, List.drop_left]

/-- Nothing is queued, nothing is sent that was not being sent before, and completions only shorten
the queue. -/
theorem Alone.kept (alone : x.Alone waiting) {fewer : List (List UInt8)}
    (shorter : fewer.Sublist waiting) (silent : x.queued after = [])
    (flight : after.chunkInFlight = true → x.chunkInFlight = true)
    (held : after.held = some true → x.held = some true)
    (send : after.endpoint.isSending = true → x.endpoint.isSending = true ∧
      after.endpoint.send = x.endpoint.send) : after.Alone (fewer ++ x.queued after) := by
  rw [silent, List.append_nil]
  refine ⟨Nat.le_trans (shorter.filter _).length_le alone.single, fun flying value member => ?_,
    fun flying sending value member => ?_, fun part value member => ?_, fun part sending => ?_⟩
  · exact alone.flying (flight flying) value (shorter.subset member)
  · rw [(send sending).2]
    exact alone.current (flight flying) (send sending).1 value (shorter.subset member)
  · exact alone.parted (held part) value (shorter.subset member)
  · rw [(send sending).2]
    exact alone.first (held part) (send sending).1

/-- A control reply joins the queue only while no chunk is in flight. -/
theorem Alone.replied (alone : x.Alone waiting) {reply : List UInt8} (control : ¬OfMessage reply)
    {added : List (List UInt8)} (either : added = [] ∨ added = [reply])
    (more : after.notices = x.notices ++ added)
    (flight : after.chunkInFlight = true → x.chunkInFlight = true)
    (unheld : after.held ≠ some true)
    (send : after.endpoint.isSending = true → x.endpoint.isSending = true ∧
      after.endpoint.send = x.endpoint.send)
    (apart : after.chunkInFlight = true → ∀ value ∈ waiting ++ x.queued after, OfMessage value) :
    after.Alone (waiting ++ x.queued after) := by
  rcases either with rfl | rfl
  · exact alone.kept (List.Sublist.refl _) (queued_append more) flight
      (fun part => absurd part unheld) send
  · rw [queued_append more] at apart ⊢
    have landed : after.chunkInFlight ≠ true := fun flying =>
      control (apart flying reply (List.mem_append_right _ List.mem_cons_self))
    refine ⟨?_, apart, fun flying => absurd flying landed, fun part => absurd part unheld,
      fun part => absurd part unheld⟩
    rw [List.filter_append]
    simpa [control] using alone.single

/-- The chunk that was cut off last is the only one in the queue, or was lost. -/
theorem alone_chunk {chunk : List UInt8} {added : List (List UInt8)}
    (either : added = [] ∨ added = [chunk]) (more : after.notices = x.notices ++ added)
    (tag : OfMessage chunk) (unheld : after.held ≠ some true)
    (due : after.endpoint.isSending = true →
      Chunk.sequence .negotiated chunk + 1 = after.endpoint.send.sequence) :
    after.Alone ([] ++ x.queued after) := by
  rw [queued_append more, List.nil_append]
  have only {value : List UInt8} (member : value ∈ added) : value = chunk := by
    rcases either with rfl | rfl
    · cases member
    · exact List.mem_singleton.mp member
  refine ⟨?_, fun _ value member => only member ▸ tag, fun _ sending value member => ?_,
    fun part => absurd part unheld, fun part => absurd part unheld⟩
  · refine Nat.le_trans (List.length_filter_le ..) ?_
    rcases either with rfl | rfl <;> simp
  · rw [only member]
    exact due sending

/-- A queue without chunks is empty once a chunk may not share it. -/
theorem eq_nil_of_apart {added : List (List UInt8)}
    (parted : ∀ value ∈ waiting, ¬OfMessage value)
    (apart : ∀ value ∈ waiting ++ added, OfMessage value) : waiting = [] :=
  List.eq_nil_iff_forall_not_mem.mpr fun value member =>
    parted value member (apart value (List.mem_append_left _ member))

theorem held_free (steady : x.Steady) (free : x.awaitingWriteAck = false) :
    x.held ≠ some true := by
  intro part
  have some : x.pending ≠ none := by
    intro none
    rw [held, none] at part
    cases part
  exact absurd (free.symm.trans (steady.waits some)) (by decide)

theorem Alone.fed (steady : x.Steady) (alone : x.Alone waiting) {value : List UInt8}
    (fed : x.Fed value after)
    (apart : after.chunkInFlight = true → ∀ value ∈ waiting ++ x.queued after, OfMessage value) :
    after.Alone (waiting ++ x.queued after) := by
  cases fed with
  | @replied endpoint reply _ keeps locked control offered =>
    have send (sending : endpoint.isSending = true) : x.endpoint.isSending = true ∧
        endpoint.send = x.endpoint.send := ⟨locked ▸ sending, keeps.send⟩
    cases offered with
    | held => exact alone.kept (List.Sublist.refl _) List.drop_length id nofun send
    | queued free added either =>
      have unheld := held_free steady free
      exact alone.replied control either rfl (fun flying => (Bool.or_false _).symm.trans flying)
        unheld send apart
  | received keeps =>
    exact alone.kept (List.Sublist.refl _) List.drop_length id id fun sending =>
      ⟨keeps.unbegun sending, keeps.send⟩
  | aborted => exact alone.kept (List.Sublist.refl _) List.drop_length id id nofun

/-- A completion that finds a chunk in flight acknowledges that chunk. -/
theorem Alone.acknowledged (steady : x.Steady) (alone : x.Alone waiting) (answered : waiting ≠ [])
    (acknowledged : x.Acknowledged after) : after.Alone (waiting.tail ++ x.queued after) := by
  cases acknowledged with
  | ignored => exact alone.kept (List.tail_sublist _) List.drop_length id id fun sending => ⟨sending, rfl⟩
  | released flying sending next added either =>
    obtain ⟨value, rfl, message⟩ := (alone.flying_cases flying).resolve_left answered
    obtain ⟨tag, sequence, due⟩ := Endpoint.nextChunk_fields rfl steady.counted next
    have unheld : x.held ≠ some true := fun part =>
      alone.parted part value List.mem_cons_self message
    refine alone_chunk either rfl tag unheld fun _ => ?_
    rw [sequence]
    exact due.symm
  | finished => exact alone.kept (List.tail_sublist _) List.drop_length nofun id nofun

theorem Alone.answered (steady : x.Steady) (alone : x.Alone waiting) (answered : x.Answered after)
    (apart : after.chunkInFlight = true → ∀ value ∈ waiting ++ x.queued after, OfMessage value) :
    after.Alone (waiting ++ x.queued after) := by
  cases answered with
  | ignored | silent =>
    exact alone.kept (List.Sublist.refl _) List.drop_length id id fun sending => ⟨sending, rfl⟩
  | @notified _ notification held added either =>
    have sound := steady.sound notification held
    obtain ⟨chunk, ofMessage⟩ := notification
    have part : x.held = some ofMessage := congrArg (Option.map PendingNotify.ofMessage) held
    cases ofMessage with
    | true =>
      have empty := eq_nil_of_apart (alone.parted part) (apart (Bool.or_true _))
      subst empty
      refine alone_chunk either rfl (sound.marked.mp rfl) nofun fun sending => ?_
      rw [sound.opening rfl]
      exact (alone.first part sending).symm
    | false =>
      have control : ¬OfMessage chunk := fun tag => nomatch sound.marked.mpr tag
      exact alone.replied control either rfl (fun flying => (Bool.or_false _).symm.trans flying)
        nofun (fun sending => ⟨sending, rfl⟩) apart

/-- A message is taken on once no part of an earlier one is held back or unanswered. -/
theorem Alone.sent (steady : x.Steady) (alone : x.Alone waiting) {data : List UInt8}
    {result : Except SendError Unit} (sent : x.Sent data result after)
    (settled : result = .ok () → x.held ≠ some true ∧ ∀ value ∈ waiting, ¬OfMessage value)
    (apart : after.chunkInFlight = true → ∀ value ∈ waiting ++ x.queued after, OfMessage value) :
    after.Alone (waiting ++ x.queued after) := by
  have idle (parted : ∀ value ∈ waiting, ¬OfMessage value) (flying : x.chunkInFlight = true)
      {value : List UInt8} (member : value ∈ waiting) {p : Prop} : p :=
    absurd (alone.flying flying value member) (parted value member)
  cases sent with
  | refused => exact alone.kept (List.Sublist.refl _) List.drop_length id id fun sending => ⟨sending, rfl⟩
  | overlong => exact alone.kept (List.Sublist.refl _) List.drop_length id id nofun
  | @stuck _ _ endpoint =>
    obtain ⟨unheld, parted⟩ := settled rfl
    have none : x.queued { x with endpoint := endpoint, txData := data } = [] :=
      List.drop_length
    rw [none, List.append_nil]
    exact ⟨alone.single, alone.flying, fun flying _ _ member => idle parted flying member,
      fun part => absurd part unheld, fun part => absurd part unheld⟩
  | @begun _ _ chunk endpoint next _ offered =>
    obtain ⟨unheld, parted⟩ := settled rfl
    obtain ⟨tag, sequence, due⟩ :=
      Endpoint.nextChunk_fields rfl (counted_begun x.endpoint data.length) next
    cases offered with
    | held =>
      have none : x.queued { x with
          endpoint := endpoint, txData := data, pending := some ⟨chunk, true⟩ } = [] :=
        List.drop_length
      rw [none, List.append_nil]
      exact ⟨alone.single, alone.flying, fun flying _ _ member => idle parted flying member,
        fun _ => parted, fun _ _ => due⟩
    | queued free added either =>
      have empty := eq_nil_of_apart parted (apart (Bool.or_true _))
      subst empty
      have unheld := held_free steady free
      refine alone_chunk either rfl tag unheld fun _ => ?_
      rw [sequence]
      exact due.symm

theorem Alone.ticked (alone : x.Alone waiting) (ticked : x.Ticked after) :
    after.Alone (waiting ++ x.queued after) := by
  cases ticked with
  | running => exact alone.kept (List.Sublist.refl _) List.drop_length id id fun sending => ⟨sending, rfl⟩
  | expired => exact alone.kept (List.Sublist.refl _) List.drop_length nofun nofun nofun

theorem eq_of_mem_queued {added : List (List UInt8)} {value chunk : List UInt8}
    (either : added = [] ∨ added = [value]) (more : after.notices = x.notices ++ added)
    (member : chunk ∈ x.queued after) : chunk = value := by
  rw [queued_append more] at member
  rcases either with rfl | rfl
  · cases member
  · exact List.mem_singleton.mp member

theorem not_mem_queued {chunk : List UInt8} (silent : x.queued after = []) :
    chunk ∉ x.queued after := by
  rw [silent]
  exact List.not_mem_nil

theorem Fed.control {value chunk : List UInt8} (fed : x.Fed value after)
    (member : chunk ∈ x.queued after) : ¬OfMessage chunk := by
  cases fed with
  | replied _ _ control offered =>
    cases offered with
    | held => exact absurd member (not_mem_queued List.drop_length)
    | queued _ added either =>
      rw [eq_of_mem_queued either rfl member]
      exact control
  | received | aborted => exact absurd member (not_mem_queued List.drop_length)

theorem Alone.inTurn_acknowledged (steady : x.Steady) (alone : x.Alone waiting)
    (answered : waiting ≠ []) (acknowledged : x.Acknowledged after) {chunk : List UInt8}
    (member : chunk ∈ x.queued after) : InTurn waiting True chunk := by
  cases acknowledged with
  | released flying sending next added either =>
    obtain ⟨previous, rfl, message⟩ := (alone.flying_cases flying).resolve_left answered
    obtain ⟨-, sequence, -⟩ := Endpoint.nextChunk_fields rfl steady.counted next
    rw [eq_of_mem_queued either rfl member]
    refine .inr ⟨trivial, previous, rfl, message, ?_⟩
    rw [sequence]
    exact alone.current flying sending previous List.mem_cons_self
  | ignored | finished => exact absurd member (not_mem_queued List.drop_length)

theorem Alone.inTurn_answered (steady : x.Steady) (alone : x.Alone waiting)
    (answered : x.Answered after)
    (apart : after.chunkInFlight = true → ∀ value ∈ waiting ++ x.queued after, OfMessage value)
    {chunk : List UInt8} (member : chunk ∈ x.queued after) (tag : OfMessage chunk) {p : Prop} :
    InTurn waiting p chunk := by
  cases answered with
  | @notified _ notification held added either =>
    have sound := steady.sound notification held
    obtain ⟨value, ofMessage⟩ := notification
    have same : chunk = value := eq_of_mem_queued either rfl member
    subst same
    cases sound.marked.mpr tag
    have parted := alone.parted (congrArg (Option.map PendingNotify.ofMessage) held)
    exact .inl ⟨sound.opening rfl, eq_nil_of_apart parted (apart (Bool.or_true _))⟩
  | ignored | silent => exact absurd member (not_mem_queued List.drop_length)

theorem inTurn_sent {data : List UInt8} {result : Except SendError Unit}
    (sent : x.Sent data result after)
    (settled : result = .ok () → x.held ≠ some true ∧ ∀ value ∈ waiting, ¬OfMessage value)
    (apart : after.chunkInFlight = true → ∀ value ∈ waiting ++ x.queued after, OfMessage value)
    {chunk : List UInt8} (member : chunk ∈ x.queued after) {p : Prop} :
    InTurn waiting p chunk := by
  cases sent with
  | begun _ _ next offered =>
    obtain ⟨-, sequence, -⟩ :=
      Endpoint.nextChunk_fields rfl (counted_begun x.endpoint data.length) next
    cases offered with
    | held => exact absurd member (not_mem_queued List.drop_length)
    | queued _ added either =>
      rw [eq_of_mem_queued either rfl member]
      exact .inl ⟨sequence, eq_nil_of_apart (settled rfl).2 (apart (Bool.or_true _))⟩
  | refused | overlong | stuck => exact absurd member (not_mem_queued List.drop_length)

end Exchange

namespace Core

/-- The values of the notifications that an input queues. -/
def queuedBy (c : Core) (input : Input) : List (List UInt8) :=
  c.exchange.queued (c.step input).exchange

/-- The host gives the message up, a chunk is not acknowledged in time, or the connection is made
anew. -/
def Abandons (c : Core) (effect : Effect) : Prop :=
  (∃ permit value, effect = .written permit value ∧ c.endpoint.Cancels value) ∨
    effect = .ticked ∧
      (c.transferTimeout.tick (Settings.microseconds c.settings.tick)).phase = .expired ∨
    effect.Severs

open Exchange

variable {c : Core} {effect : Effect} {after : Exchange} {waiting : List (List UInt8)}

theorem Shift.alone (shift : c.Shift effect after) (live : c.Live)
    (stays : effect ≠ .disconnected) (steady : c.exchange.Steady)
    (alone : c.exchange.Alone waiting) (answers : effect = .notified → waiting ≠ [])
    (settled : ∀ data, effect = .sent data → (c.sendMessage data).1 = .ok () →
      c.exchange.held ≠ some true ∧ ∀ value ∈ waiting, ¬OfMessage value)
    (apart : after.chunkInFlight = true →
      ∀ value ∈ (if effect = .notified then waiting.tail else waiting) ++ c.exchange.queued after,
        OfMessage value) :
    after.Alone ((if effect = .notified then waiting.tail else waiting) ++
      c.exchange.queued after) := by
  cases shift with
  | restarted => exact alone.kept (List.Sublist.refl _) List.drop_nil nofun nofun nofun
  | connected => exact alone.kept (List.Sublist.refl _) List.drop_length nofun nofun nofun
  | disconnected => exact absurd rfl stays
  | subscribed | encrypted | tuned | permitted =>
    exact alone.kept (List.Sublist.refl _) List.drop_length id id fun sending => ⟨sending, rfl⟩
  | sequenced away => exact absurd live away
  | other notices fewer =>
    have none : c.exchange.queued { c.exchange with notices := notices } = [] :=
      List.drop_eq_nil_of_le fewer.length_le
    exact alone.kept (List.Sublist.refl _) none id id fun sending => ⟨sending, rfl⟩
  | written permit _ _ fed =>
    have answering : Alone
      { c.exchange with awaitingWriteAck := c.awaitingWriteAck || permit } waiting := { alone with }
    have alone := Alone.fed (steady.answering permit) answering fed apart
    exact alone
  | writeAcknowledged answered => exact Alone.answered steady alone answered apart
  | notified acknowledged => exact Alone.acknowledged steady alone (answers rfl) acknowledged
  | ticked ticked => exact alone.ticked ticked
  | polled =>
    have keeps := c.endpoint.takeComplete_keepsSend
    exact alone.kept (List.Sublist.refl _) List.drop_length id id fun sending =>
      ⟨keeps.unbegun sending, keeps.send⟩
  | sent data sent => exact Alone.sent steady alone sent (settled data rfl) apart

theorem Shift.inTurn (shift : c.Shift effect after) (live : c.Live)
    (stays : effect ≠ .disconnected) (steady : c.exchange.Steady)
    (alone : c.exchange.Alone waiting) (answers : effect = .notified → waiting ≠ [])
    (settled : ∀ data, effect = .sent data → (c.sendMessage data).1 = .ok () →
      c.exchange.held ≠ some true ∧ ∀ value ∈ waiting, ¬OfMessage value)
    (apart : after.chunkInFlight = true →
      ∀ value ∈ (if effect = .notified then waiting.tail else waiting) ++ c.exchange.queued after,
        OfMessage value) {chunk : List UInt8} (member : chunk ∈ c.exchange.queued after)
    (tag : OfMessage chunk) : InTurn waiting (effect = .notified) chunk := by
  cases shift with
  | restarted => exact absurd member (not_mem_queued List.drop_nil)
  | disconnected => exact absurd rfl stays
  | connected | subscribed | encrypted | tuned | permitted | polled =>
    exact absurd member (not_mem_queued List.drop_length)
  | sequenced away => exact absurd live away
  | other notices fewer =>
    exact absurd member (not_mem_queued (List.drop_eq_nil_of_le fewer.length_le))
  | written _ _ _ fed => exact absurd tag (fed.control member)
  | writeAcknowledged answered => exact alone.inTurn_answered steady answered apart member tag
  | notified acknowledged =>
    have turn := alone.inTurn_acknowledged steady (answers rfl) acknowledged member
    simpa using turn
  | ticked ticked => cases ticked <;> exact absurd member (not_mem_queued List.drop_length)
  | sent data sent => exact inTurn_sent sent (settled data rfl) apart member

/-- The lock is given back once the last chunk is acknowledged, or the message is given up. -/
theorem Shift.released (shift : c.Shift effect after) (alone : c.exchange.Alone waiting)
    (answers : effect = .notified → waiting ≠ []) (sending : c.endpoint.isSending = true)
    (released : after.endpoint.isSending = false) :
    effect = .notified ∧ (c.endpoint.nextChunk c.txData).1 = none ∧
        (∃ last, waiting = [last] ∧ OfMessage last ∧
          Chunk.sequence .negotiated last + 1 = c.endpoint.send.sequence) ∨
      c.Abandons effect := by
  have kept {p : Prop} (same : after.endpoint.isSending = c.endpoint.isSending) : p :=
    absurd (released.symm.trans (same.trans sending)) (by decide)
  cases shift with
  | restarted => exact .inr (.inr (.inr (.inl rfl)))
  | connected => exact .inr (.inr (.inr (.inr (.inl rfl))))
  | disconnected => exact .inr (.inr (.inr (.inr (.inr rfl))))
  | subscribed | encrypted | tuned | permitted | sequenced | other => exact kept rfl
  | written permit value _ fed =>
    cases fed with
    | replied _ locked _ offered => cases offered <;> exact kept locked
    | received _ either =>
      rcases either with locked | cancels
      · exact kept locked
      · exact .inr (.inl ⟨permit, value, rfl, cancels⟩)
    | aborted _ cancels => exact .inr (.inl ⟨permit, value, rfl, cancels⟩)
  | writeAcknowledged answered => cases answered <;> exact kept rfl
  | notified acknowledged =>
    cases acknowledged with
    | ignored => exact kept rfl
    | released _ _ next =>
      obtain ⟨-, -, -, rfl⟩ := Endpoint.nextChunk_some next
      exact kept rfl
    | finished flying last =>
      obtain ⟨value, rfl, message⟩ := (alone.flying_cases flying).resolve_left (answers rfl)
      exact .inl ⟨rfl, last sending, value, rfl, message,
        alone.current flying sending value List.mem_cons_self⟩
  | ticked ticked =>
    cases ticked with
    | running => exact kept rfl
    | expired late => exact .inr (.inr (.inl ⟨rfl, late⟩))
  | polled =>
    refine kept ?_
    unfold Endpoint.takeComplete
    split <;> rfl
  | sent data sent =>
    have free {p : Prop} (free : c.endpoint.isSending = false) : p :=
      absurd (free.symm.trans sending) (by decide)
    generalize (c.sendMessage data).1 = result at sent
    cases sent with
    | refused => exact kept rfl
    | overlong idle | stuck idle | begun idle => exact free idle

end Core

/-- The values whose notifications have been queued and not completed, the oldest first: every
completion answers the first of them. -/
def unanswered (past : List (Core × Input)) : List (List UInt8) :=
  past.foldl (fun waiting e =>
    (if e.1.effect e.2 = .notified then waiting.tail else waiting) ++ e.1.queuedBy e.2) []

theorem unanswered_append (past : List (Core × Input)) (c : Core) (input : Input) :
    unanswered (past ++ [(c, input)]) =
      (if c.effect input = .notified then (unanswered past).tail else unanswered past) ++
        c.queuedBy input := by
  simp only [unanswered, List.foldl_append, List.foldl_cons, List.foldl_nil]

/-- The link stays up, and a completion answers a notification that was queued. -/
structure Serves (past : List (Core × Input)) (c : Core) (input : Input) : Prop where
  live : (c.step input).Live
  answers : c.effect input = .notified → unanswered past ≠ []

/-- A message is taken on once no part of an earlier one is held back or unanswered, and no control
reply is unanswered while a chunk is in flight. -/
structure Paces (past : List (Core × Input)) (c : Core) (input : Input) : Prop
    extends Serves past c input where
  settled : ∀ data, c.effect input = .sent data → (c.sendMessage data).1 = .ok () →
    c.exchange.held ≠ some true ∧ ∀ value ∈ unanswered past, ¬OfMessage value
  apart : (c.step input).chunkInFlight = true →
    ∀ value ∈ unanswered (past ++ [(c, input)]), OfMessage value

/-- A run each of whose inputs keeps to a rule, with nothing unanswered at its start. -/
inductive RunUnder (rule : List (Core × Input) → Core → Input → Prop) (initial : Core) :
    List (Core × Input) → Core → Prop
  | start : RunUnder rule initial [] initial
  | next {past : List (Core × Input)} {c : Core} (run : RunUnder rule initial past c)
      {input : Input} (keeps : rule past c input) :
      RunUnder rule initial (past ++ [(c, input)]) (c.step input)

section

variable {settings : Settings} {random : RandomSource} {name : String} {address : List UInt8}
  {planeMode : Bool} {before past : List (Core × Input)} {initial c : Core}

theorem RunUnder.paced
    (reached : Run (.create settings random name address planeMode) before initial)
    (live : initial.Live) (unheld : initial.exchange.held ≠ some true)
    (run : RunUnder Paces initial past c) :
    c.Live ∧ c.exchange.Steady ∧ c.exchange.Alone (unanswered past) := by
  induction run with
  | start =>
    exact ⟨live, reached.steady, Nat.zero_le _, nofun, nofun, nofun, fun held => absurd held unheld⟩
  | @next past c run input paces ih =>
    obtain ⟨up, steady, alone⟩ := ih
    have stays : c.effect input ≠ .disconnected := fun gone =>
      Core.not_live_of_disconnected gone paces.live
    have apart := paces.apart
    rw [unanswered_append] at apart ⊢
    exact ⟨paces.live, (c.step_shift input).steady steady,
      (c.step_shift input).alone up stays steady alone paces.answers paces.settled apart⟩

/-- On a live link whose notifications are completed in the order of the queue, each chunk of a
message waits for the completion of its own predecessor, and the lock is given back with that of
the last chunk or when the message is given up. -/
theorem RunUnder.flow_controlled
    (reached : Run (.create settings random name address planeMode) before initial)
    (live : initial.Live) (unheld : initial.exchange.held ≠ some true)
    (run : RunUnder Paces initial past c) {input : Input} (paces : Paces past c input) :
    ((unanswered (past ++ [(c, input)])).filter (OfMessage ·)).length ≤ 1 ∧
      (∀ chunk ∈ c.queuedBy input, OfMessage chunk →
        InTurn (unanswered past) (c.effect input = .notified) chunk) ∧
      (c.endpoint.isSending = true → (c.step input).endpoint.isSending = false →
        c.effect input = .notified ∧ (c.endpoint.nextChunk c.txData).1 = none ∧
            (∃ last, unanswered past = [last] ∧ OfMessage last ∧
              Chunk.sequence .negotiated last + 1 = c.endpoint.send.sequence) ∨
          c.Abandons (c.effect input)) := by
  obtain ⟨up, steady, alone⟩ := run.paced reached live unheld
  have stays : c.effect input ≠ .disconnected := fun gone =>
    Core.not_live_of_disconnected gone paces.live
  have shift := c.step_shift input
  have apart := paces.apart
  have one := ((run.next paces).paced reached live unheld).2.2.single
  rw [unanswered_append] at apart
  exact ⟨one, fun chunk member tag => shift.inTurn up stays steady alone paces.answers
    paces.settled apart member tag, shift.released alone paces.answers⟩

end

/-- A message of three chunks; the completion of the first one has the second one queued. -/
theorem RunUnder.flow_controlled_second :
    let created := Core.create .standard (.stepping 0 1) "card" [1, 2, 3, 4, 5, 6] true
    let initial := Input.session.foldl Core.step created
    let message := Input.sendMessage (List.replicate 40 0x2A)
    let completed := Input.completed .updateCharValue
    let c := initial.step message
    let past := [(initial, message)]
    initial.Live ∧ initial.exchange.held ≠ some true ∧ RunUnder Paces initial past c ∧
      Paces past c completed ∧ c.endpoint.isSending = true ∧
      (c.queuedBy completed).map (Chunk.sequence .negotiated) = [1] ∧
      (((unanswered (past ++ [(c, completed)])).filter (OfMessage ·)).length ≤ 1 ∧
        (∀ chunk ∈ c.queuedBy completed, OfMessage chunk →
          InTurn (unanswered past) (c.effect completed = .notified) chunk) ∧
        (c.endpoint.isSending = true → (c.step completed).endpoint.isSending = false →
          c.effect completed = .notified ∧ (c.endpoint.nextChunk c.txData).1 = none ∧
              (∃ last, unanswered past = [last] ∧ OfMessage last ∧
                Chunk.sequence .negotiated last + 1 = c.endpoint.send.sequence) ∨
            c.Abandons (c.effect completed))) := by
  intro created initial message completed c past
  obtain ⟨before, reached⟩ := Run.script created Input.session
  have live : initial.Live := by decide +kernel
  have unheld : initial.exchange.held ≠ some true := by decide +kernel
  have taken : Paces [] initial message :=
    ⟨⟨by decide +kernel, by decide +kernel⟩, fun _ _ _ => ⟨unheld, nofun⟩, by decide +kernel⟩
  have run : RunUnder Paces initial past c := RunUnder.start.next taken
  have notified : c.effect completed = .notified := by decide +kernel
  have paces : Paces past c completed :=
    ⟨⟨by decide +kernel, by decide +kernel⟩,
      fun _ sent => absurd (notified.symm.trans sent) nofun, by decide +kernel⟩
  exact ⟨live, unheld, run, paces, by decide +kernel, by decide +kernel,
    run.flow_controlled reached live unheld paces⟩

/-- Without the rule on control replies the second completion, that of a version reply, has the
third chunk queued before the second one is acknowledged. And an abort of the host gives the lock
back at once, with the only chunk unacknowledged. -/
theorem chunks_out_of_turn :
    let created := Core.create .standard (.stepping 0 1) "card" [1, 2, 3, 4, 5, 6] true
    let initial := Input.session.foldl Core.step created
    let message := Input.sendMessage (List.replicate 40 0x2A)
    let completed := Input.completed .updateCharValue
    (∃ before, Run created before initial) ∧ initial.Live ∧
      (∃ past c, RunUnder Serves initial past c ∧
        past.map Prod.snd = [message, .modified 0x71 [0x00], completed, completed] ∧
        (∀ value ∈ unanswered past, OfMessage value) ∧
        (unanswered past).map (Chunk.sequence .negotiated) = [1, 2]) ∧
      ∃ past c, RunUnder Serves initial past c ∧ c.endpoint.isSending = true ∧
        Serves past c (.modified 0x71 [0x03]) ∧
        (c.step (.modified 0x71 [0x03])).endpoint.isSending = false ∧
        (unanswered past).map (Chunk.sequence .negotiated) = [0] := by
  intro created initial message completed
  obtain ⟨before, reached⟩ := Run.script created Input.session
  have taken : RunUnder Serves initial [(initial, message)] (initial.step message) :=
    RunUnder.start.next ⟨by decide +kernel, by decide +kernel⟩
  have replied := taken.next (show Serves _ _ (.modified 0x71 [0x00]) from
    ⟨by decide +kernel, by decide +kernel⟩)
  have released := replied.next (show Serves _ _ completed from
    ⟨by decide +kernel, by decide +kernel⟩)
  have overtaken := released.next (show Serves _ _ completed from
    ⟨by decide +kernel, by decide +kernel⟩)
  refine ⟨⟨before, reached⟩, by decide +kernel, ⟨_, _, overtaken, rfl, ?_, ?_⟩,
    _, _, taken, ?_, ⟨?_, ?_⟩, ?_, ?_⟩
  all_goals decide +kernel

end CardLink.Controller
