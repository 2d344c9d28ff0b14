import CardLink.Proofs.Controller.Steadiness
import CardLink.Proofs.Framing.Lengths

namespace CardLink.Controller

namespace Exchange

/-- A control reply takes the place of a chunk that waits for a write response, while nothing else
of the message is on its way and the send goes on. -/
def Displaces (x after : Exchange) : Prop :=
  x.endpoint.isSending = true ∧ x.chunkInFlight = false ∧ x.held = some true ∧
    after.held = some false ∧ after.endpoint.isSending = true

/-- A chunk is displaced now, or has been before and the send goes on. -/
def StillDisplaced (x after : Exchange) (displaced : Prop) : Prop :=
  x.Displaces after ∨ displaced ∧ ¬after.endpoint.isSending = false

/-- A first chunk has room, now and after every change of the chunk length. -/
structure Roomy (x : Exchange) : Prop where
  initial : 6 ≤ x.settings.initialChunkLength
  ceiling : 6 ≤ x.endpoint.layout.ceiling
  chunkLength : 6 ≤ x.endpoint.layout.chunkLength

/-- While the link sends, something is outstanding unless it has been displaced. -/
structure Tracked (x : Exchange) (displaced : Prop) : Prop where
  begun : displaced → x.endpoint.isSending = true
  outstanding : x.endpoint.isSending = true →
    (x.chunkInFlight = true ∨ x.held = some true ↔ ¬displaced)

variable {x after : Exchange} {displaced : Prop}

theorem Roomy.terms (roomy : x.Roomy) (same : after.terms = x.terms) : after.Roomy := by
  have settings : after.settings = x.settings := congrArg Terms.settings same
  have layout : after.endpoint.layout = x.endpoint.layout := congrArg Terms.layout same
  obtain ⟨initial, ceiling, chunkLength⟩ := roomy
  rw [← settings] at initial
  rw [← layout] at ceiling chunkLength
  exact ⟨initial, ceiling, chunkLength⟩

theorem roomy_resetMtu (roomy : x.Roomy) :
    (x.severed (x.endpoint.layout.resetMtu x.settings.initialChunkLength)).Roomy :=
  ⟨roomy.initial, roomy.ceiling, Nat.le_min.mpr ⟨roomy.initial, roomy.ceiling⟩⟩

theorem roomy_setAttMtu (roomy : x.Roomy) (mtu : Nat) :
    (x.retuned (x.endpoint.layout.setAttMtu mtu)).Roomy :=
  ⟨roomy.initial, roomy.ceiling, Nat.le_min.mpr ⟨roomy.ceiling, Nat.le_max_left ..⟩⟩

/-- With room for it the first chunk of a message is always there. -/
theorem Roomy.nextChunk_begun (roomy : x.Roomy) {data : List UInt8}
    {endpoint : Endpoint .negotiated} :
    (x.endpoint.begun data.length).nextChunk data ≠ (none, endpoint) := by
  intro next
  have some := Endpoint.nextChunk_active (e := x.endpoint.begun data.length) rfl rfl
    data.length.zero_le roomy.chunkLength
  rw [some] at next
  cases next

/-- Nothing is outstanding of a send that has ended. -/
theorem tracked_ended (ended : after.endpoint.isSending = false) :
    after.Tracked (x.StillDisplaced after displaced) where
  begun := by
    rintro (⟨-, -, -, -, sending⟩ | ⟨-, sending⟩)
    · exact sending
    · exact absurd ended sending
  outstanding sending := absurd (ended.symm.trans sending) (by decide)

/-- Outside a displacement only the end of the send counts. -/
theorem displaced_of_sending (still : ¬x.Displaces after)
    (sending : after.endpoint.isSending = true) :
    x.StillDisplaced after displaced ↔ displaced := by
  simp [StillDisplaced, still, sending]

/-- The send goes on or ends, and nothing else moves. -/
theorem Tracked.kept (tracked : x.Tracked displaced)
    (unbegun : after.endpoint.isSending = true → x.endpoint.isSending = true)
    (flight : after.chunkInFlight = x.chunkInFlight) (held : after.held = x.held) :
    after.Tracked (x.StillDisplaced after displaced) := by
  by_cases sending : after.endpoint.isSending = true
  · have still : ¬x.Displaces after := by
      rintro ⟨-, -, part, reply, -⟩
      exact absurd (part.symm.trans (held.symm.trans reply)) (by decide)
    rw [displaced_of_sending still sending]
    refine ⟨fun _ => sending, fun _ => ?_⟩
    rw [flight, held]
    exact tracked.outstanding (unbegun sending)
  · exact tracked_ended (Bool.eq_false_iff.mpr sending)

/-- Something of the message is outstanding that was not displaced before. -/
theorem tracked_part (undisplaced : ¬displaced) (part : after.chunkInFlight = true ∨
      after.held = some true) (still : ¬x.Displaces after) :
    after.Tracked (x.StillDisplaced after displaced) where
  begun := by
    rintro (displaces | ⟨displaced, -⟩)
    · exact absurd displaces still
    · exact absurd displaced undisplaced
  outstanding _ := iff_of_true part fun either =>
    either.elim still fun displaced => undisplaced displaced.1

/-- A control reply is noted, or takes the place of what waits. -/
theorem Tracked.replied (tracked : x.Tracked displaced) {endpoint : Endpoint .negotiated}
    (locked : endpoint.isSending = x.endpoint.isSending) {reply : List UInt8}
    (offered : Offered { x with endpoint := endpoint } reply false after) :
    after.Tracked (x.StillDisplaced after displaced) := by
  cases offered with
  | queued => exact tracked.kept (fun sending => locked ▸ sending) (Bool.or_false _) rfl
  | held waits =>
    refine ⟨?_, fun sending => ?_⟩
    · rintro (⟨-, -, -, -, sending⟩ | ⟨-, sending⟩)
      · exact sending
      · exact (Bool.not_eq_false _).mp sending
    · have sending : endpoint.isSending = true := sending
      have before := tracked.outstanding (locked ▸ sending)
      -- The reply displaces just a chunk that nothing in flight makes up for.
      have displaces : x.Displaces { x with
          endpoint := endpoint, pending := some ⟨reply, false⟩ } ↔
          x.chunkInFlight = false ∧ x.held = some true := by
        constructor
        · rintro ⟨-, landed, part, -⟩
          exact ⟨landed, part⟩
        · rintro ⟨landed, part⟩
          exact ⟨locked ▸ sending, landed, part, rfl, sending⟩
      simp only [StillDisplaced, displaces]
      have replaced : held { x with endpoint := endpoint, pending := some ⟨reply, false⟩ } =
        some false := rfl
      simp only [replaced, sending, Option.some.injEq, Bool.false_eq_true, or_false,
        Bool.true_eq_false, not_false_eq_true, and_true]
      cases flight : x.chunkInFlight with
      | true => simpa [flight] using before
      | false =>
        simp only [flight, Bool.false_eq_true, false_or] at before
        simp only [Bool.false_eq_true, true_and, false_iff, before, Classical.not_not]
        exact (Classical.em displaced).symm

theorem Tracked.fed (tracked : x.Tracked displaced) {value : List UInt8}
    (fed : x.Fed value after) :
    after.Tracked (x.StillDisplaced after displaced) := by
  cases fed with
  | replied _ locked _ offered => exact tracked.replied locked offered
  | received keeps => exact tracked.kept keeps.unbegun rfl rfl
  | aborted => exact tracked_ended rfl

/-- A chunk that is noted is in flight. -/
theorem noted_flight (queued : List (List UInt8)) : (x.noted true queued).chunkInFlight = true :=
  Bool.or_true _

theorem Tracked.acknowledged (tracked : x.Tracked displaced)
    (acknowledged : x.Acknowledged after) :
    after.Tracked (x.StillDisplaced after displaced) := by
  cases acknowledged with
  | ignored => exact tracked.kept id rfl rfl
  | released flying sending =>
    refine tracked_part ((tracked.outstanding sending).mp (.inl flying)) (.inl (noted_flight _)) ?_
    rintro ⟨-, landed, -⟩
    exact absurd (flying.symm.trans landed) (by decide)
  | finished => exact tracked_ended rfl

theorem Tracked.answered (tracked : x.Tracked displaced) (answered : x.Answered after) :
    after.Tracked (x.StillDisplaced after displaced) := by
  cases answered with
  | ignored | silent => exact tracked.kept id rfl rfl
  | @notified _ waiting waiting' queued =>
    have still {y : Exchange} (empty : y.held = none) : ¬x.Displaces y := by
      rintro ⟨-, -, -, reply, -⟩
      exact absurd (empty.symm.trans reply) (by decide)
    obtain ⟨chunk, ofMessage⟩ := waiting
    have part : x.held = some ofMessage := congrArg (Option.map PendingNotify.ofMessage) waiting'
    by_cases sending : x.endpoint.isSending = true
    · have before := tracked.outstanding sending
      rw [part] at before
      cases ofMessage with
      | true => exact tracked_part (before.mp (.inr rfl)) (.inl (noted_flight _)) (still rfl)
      | false =>
        have still : ¬x.Displaces ({ x with
            awaitingWriteAck := false, pending := none }.noted false queued) := still rfl
        rw [displaced_of_sending still sending]
        refine ⟨fun _ => sending, fun _ => ?_⟩
        rw [← before]
        simp [Exchange.noted, Exchange.held]
    · exact tracked_ended (Bool.eq_false_iff.mpr sending)

theorem Tracked.sent (tracked : x.Tracked displaced) (roomy : x.Roomy) {data : List UInt8}
    {result : Except SendError Unit} (sent : x.Sent data result after) :
    after.Tracked (x.StillDisplaced after displaced) := by
  cases sent with
  | refused => exact tracked.kept id rfl rfl
  | overlong => exact tracked_ended rfl
  | stuck _ _ next => exact absurd next roomy.nextChunk_begun
  | begun free _ _ offered =>
    have undisplaced : ¬displaced := fun displaced =>
      absurd (free.symm.trans (tracked.begun displaced)) (by decide)
    have still {y : Exchange} : ¬x.Displaces y := fun displaces =>
      absurd (free.symm.trans displaces.1) (by decide)
    cases offered with
    | held => exact tracked_part undisplaced (.inr rfl) still
    | queued => exact tracked_part undisplaced (.inl (noted_flight _)) still

theorem Tracked.ticked (tracked : x.Tracked displaced) (ticked : x.Ticked after) :
    after.Tracked (x.StillDisplaced after displaced) := by
  cases ticked with
  | running => exact tracked.kept id rfl rfl
  | expired => exact tracked_ended rfl

end Exchange

theorem Core.Shift.roomy {c : Core} {effect : Effect} {after : Exchange}
    (roomy : c.exchange.Roomy) (shift : c.Shift effect after) : after.Roomy := by
  cases shift with
  | restarted | connected => exact { Exchange.roomy_resetMtu roomy with }
  | disconnected | subscribed | encrypted | permitted | sequenced | other => exact { roomy with }
  | tuned mtu => exact Exchange.roomy_setAttMtu roomy mtu
  | written _ _ _ fed => exact Exchange.Roomy.terms { roomy with } fed.terms
  | writeAcknowledged answered => exact roomy.terms answered.terms
  | notified acknowledged => exact roomy.terms acknowledged.terms
  | ticked ticked => exact roomy.terms ticked.terms
  | polled => exact roomy.terms (Exchange.terms_endpoint c.endpoint.takeComplete_keepsSend.layout)
  | sent _ sent => exact roomy.terms sent.terms

theorem Core.Shift.tracked {c : Core} {effect : Effect} {after : Exchange} {displaced : Prop}
    (roomy : c.exchange.Roomy) (tracked : c.exchange.Tracked displaced)
    (shift : c.Shift effect after) :
      after.Tracked (c.exchange.StillDisplaced after displaced) := by
  cases shift with
  | restarted | connected | disconnected => exact Exchange.tracked_ended rfl
  | subscribed | encrypted | tuned | permitted | sequenced | other =>
    exact tracked.kept id rfl rfl
  | written permit _ _ fed =>
    have answering : Exchange.Tracked
        { c.exchange with awaitingWriteAck := c.awaitingWriteAck || permit } displaced :=
      ⟨tracked.begun, tracked.outstanding⟩
    exact answering.fed fed
  | writeAcknowledged answered => exact tracked.answered answered
  | notified acknowledged => exact tracked.acknowledged acknowledged
  | ticked ticked => exact tracked.ticked ticked
  | polled => exact tracked.kept c.endpoint.takeComplete_keepsSend.unbegun rfl rfl
  | sent _ sent => exact tracked.sent roomy sent

/-- A chunk that waited for a write response has been displaced since the link began to send. -/
def Displaced (past : List (Core × Input)) : Prop :=
  Since (fun e => e.1.exchange.Displaces (e.1.step e.2).exchange)
    (fun e => (e.1.step e.2).endpoint.isSending = false) past

/-- Settings that the links can honour leave room for a first chunk. -/
theorem roomy_create {settings : Settings} (valid : settings.validate = .ok ())
    (random : RandomSource) (name : String) (address : List UInt8) (planeMode : Bool) :
    (Core.create settings random name address planeMode).exchange.Roomy := by
  have lengths := Settings.proportioned valid
  have initial := lengths.least_le_initial
  have ceiling : 6 ≤ min settings.maxMtu.toNat maxChunkLength :=
    Nat.le_min.mpr ⟨lengths.maxMtu.1, by decide⟩
  exact ⟨initial, ceiling, Nat.le_min.mpr ⟨initial, ceiling⟩⟩

section

variable {settings : Settings} {random : RandomSource} {name : String} {address : List UInt8}
  {planeMode : Bool} {past : List (Core × Input)} {c : Core}

theorem Run.roomy (valid : settings.validate = .ok ())
    (run : Run (.create settings random name address planeMode) past c) : c.exchange.Roomy := by
  induction run with
  | start => exact roomy_create valid random name address planeMode
  | next _ input ih => exact (Core.step_shift _ input).roomy ih

theorem Run.tracked (valid : settings.validate = .ok ())
    (run : Run (.create settings random name address planeMode) past c) :
    c.exchange.Tracked (Displaced past) := by
  induction run with
  | start => exact ⟨fun displaced => absurd displaced not_since_nil, nofun⟩
  | next run input ih =>
    unfold Displaced
    rw [since_append]
    exact (Core.step_shift _ input).tracked (run.roomy valid) ih

/-- While the link sends, a chunk is in flight under the transfer timeout, or waits for a write
response to be acknowledged, unless a control reply has displaced it. -/
theorem Run.outstanding_iff (valid : settings.validate = .ok ())
    (run : Run (.create settings random name address planeMode) past c)
    (sending : c.endpoint.isSending = true) :
    c.chunkInFlight = true ∧ c.transferTimeout.isArmed = true ∨
        c.awaitingWriteAck = true ∧ c.pending.map PendingNotify.ofMessage = some true ↔
      ¬Displaced past := by
  have timed : c.chunkInFlight = c.transferTimeout.isArmed := run.steady.timed
  have waits (part : c.pending.map PendingNotify.ofMessage = some true) :
      c.awaitingWriteAck = true := by
    refine run.steady.waits fun empty => ?_
    have empty : c.pending = none := empty
    rw [empty] at part
    cases part
  have tracked : c.chunkInFlight = true ∨ c.pending.map PendingNotify.ofMessage = some true ↔
    ¬Displaced past := (run.tracked valid).outstanding sending
  rw [← tracked, ← timed, and_self]
  exact or_congr_right ⟨And.right, fun part => ⟨waits part, part⟩⟩

end

/-- A message that is sent while nothing waits is in flight. -/
theorem Run.outstanding_iff_sent :
    let initial := Core.create .standard (.stepping 0 1) "card" [1, 2, 3, 4, 5, 6] true
    let inputs := Input.session ++ [.sendMessage [0x90, 0x00]]
    let c := inputs.foldl Core.step initial
    ∃ past, Run initial past c ∧ Settings.standard.validate = .ok () ∧
      c.endpoint.isSending = true ∧ c.chunkInFlight = true ∧
      (c.chunkInFlight = true ∧ c.transferTimeout.isArmed = true ∨
        c.awaitingWriteAck = true ∧ c.pending.map PendingNotify.ofMessage = some true ↔
          ¬Displaced past) := by
  intro initial inputs c
  obtain ⟨past, run⟩ := Run.script initial inputs
  have sending : c.endpoint.isSending = true := by decide +kernel
  exact ⟨past, run, rfl, sending, by decide +kernel, run.outstanding_iff rfl sending⟩

theorem Core.sendMessage_accepted {c : Core} (client : c.connection.isConnected = true)
    (free : c.endpoint.isSending = false) {data : List UInt8}
    (short : data.length ≤ messageCapacity) : (c.sendMessage data).1 = .ok () := by
  have lock : c.endpoint.session.lock.sending = false := free
  have counted : data.length ≤ 65535 := Nat.le_trans short (by decide)
  simp only [sendMessage, client, Endpoint.beginSend, SendLock.acquire, lock, if_true, if_false,
    Nat.not_lt.mpr counted, Nat.not_lt.mpr short, Bool.false_eq_true]
  split <;> rfl

theorem Core.sendMessage_busy {c : Core} (client : c.connection.isConnected = true)
    (sending : c.endpoint.isSending = true) {data : List UInt8} (short : data.length ≤ 65535) :
    c.sendMessage data = (.error .busy, c) := by
  have sending : c.endpoint.session.lock.sending = true := sending
  simp [sendMessage, client, Endpoint.beginSend, Nat.not_lt.mpr short, SendLock.acquire, sending]

/-- A version request that is written without response displaces the answer to a message whose own
write has not been acknowledged: the link sends for ever, and no time ends that. -/
theorem locked_with_nothing_outstanding :
    let initial := Core.create .standard (.stepping 0 1) "card" [1, 2, 3, 4, 5, 6] true
    let inputs := Input.session ++ [.asked 0x61 [0x05, 0x00, 0x00, 0x00, 0x01, 0xAA], .poll,
      .sendMessage [0x90, 0x00], .modified 0x71 [0x00], .completed .writeResponse,
      .completed .updateCharValue] ++ List.replicate 25 .tick
    let c := inputs.foldl Core.step initial
    ∃ past, Run initial past c ∧ Settings.standard.validate = .ok () ∧
      c.endpoint.isSending = true ∧ (c.sendMessage [0x90, 0x00]).1 = .error .busy ∧
      ¬(c.chunkInFlight = true ∧ c.transferTimeout.isArmed = true ∨
        c.awaitingWriteAck = true ∧ c.pending.map PendingNotify.ofMessage = some true) := by
  intro initial inputs c
  obtain ⟨past, run⟩ := Run.script initial inputs
  have sending : c.endpoint.isSending = true := by decide +kernel
  have client : c.connection.isConnected = true := by decide +kernel
  have busy : c.sendMessage [0x90, 0x00] = (.error .busy, c) :=
    Core.sendMessage_busy client sending (by decide)
  exact ⟨past, run, rfl, sending, congrArg Prod.fst busy, by decide +kernel⟩

end CardLink.Controller
