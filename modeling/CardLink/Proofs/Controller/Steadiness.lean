import CardLink.Proofs.Controller.Effects

namespace CardLink

theorem Countdown.isArmed_tick {c : Countdown} {step : Nat}
    (timely : (c.tick step).phase ≠ .expired) : (c.tick step).isArmed = c.isArmed := by
  unfold tick at *
  split
  · rename_i armed
    by_cases late : c.limit ≤ c.elapsed + step
    · simp [armed, late] at timely
    · simp [isArmed, armed, late]
  · rfl

theorem Countdown.isArmed_cancel (c : Countdown) : c.cancel.isArmed = false := by
  unfold cancel
  split
  · rfl
  · rename_i idle
    exact beq_false_of_ne idle

namespace Controller

/-- What waits for a write response is a control reply or the first chunk of a message. -/
structure PendingNotify.Sound (waiting : PendingNotify) : Prop where
  marked : waiting.ofMessage = true ↔ OfMessage waiting.chunk
  opening : waiting.ofMessage = true → Chunk.sequence .negotiated waiting.chunk = 0

/-- A chunk is in flight just while its countdown runs, only an unanswered write keeps a
notification back, and the chunks of the message are counted. -/
structure Exchange.Steady (x : Exchange) : Prop where
  timed : x.chunkInFlight = x.transferTimeout.isArmed
  waits : x.pending ≠ none → x.awaitingWriteAck = true
  sound : ∀ waiting ∈ x.pending, waiting.Sound
  counted : x.endpoint.send.Counted
  short : x.txData.length ≤ messageCapacity

namespace Exchange

variable {x after : Exchange}

theorem counted_idle : SendProgress.Counted {} := ⟨Nat.zero_le _, Nat.zero_le _, nofun⟩

theorem counted_begun (e : Endpoint .negotiated) (length : Nat) :
    (e.begun length).send.Counted := ⟨Nat.zero_le _, Nat.zero_le _, fun _ => Nat.le_refl 0⟩

theorem Steady.endpoint (steady : x.Steady) {endpoint : Endpoint .negotiated}
    (send : endpoint.send = x.endpoint.send) : Steady { x with endpoint := endpoint } :=
  { steady with counted := send ▸ steady.counted }

/-- A write that asks for a permit is answered. -/
theorem Steady.answering (steady : x.Steady) (permit : Bool) :
    Steady { x with awaitingWriteAck := x.awaitingWriteAck || permit } :=
  { steady with waits := fun held => Bool.or_eq_true_iff.mpr (.inl (steady.waits held)) }

theorem Steady.noted (steady : x.Steady) (ofMessage : Bool) (queued : List (List UInt8)) :
    (x.noted ofMessage queued).Steady where
  timed := by
    cases ofMessage with
    | true => simp [Exchange.noted, Countdown.arm, Countdown.isArmed]
    | false => simpa [Exchange.noted] using steady.timed
  waits := steady.waits
  sound := steady.sound
  counted := steady.counted
  short := steady.short

theorem Steady.offered (steady : x.Steady) {chunk : List UInt8} {ofMessage : Bool}
    (sound : PendingNotify.Sound ⟨chunk, ofMessage⟩)
    (offered : x.Offered chunk ofMessage after) : after.Steady := by
  cases offered with
  | held waits =>
    refine { steady with waits := fun _ => waits, sound := fun waiting held => ?_ }
    cases held
    exact sound
  | queued free queued => exact steady.noted ofMessage queued

theorem sound_reply {reply : List UInt8} (control : ¬OfMessage reply) :
    PendingNotify.Sound ⟨reply, false⟩ :=
  ⟨iff_of_false nofun control, nofun⟩

theorem sound_first {e endpoint : Endpoint .negotiated} {data chunk : List UInt8}
    (next : (e.begun data.length).nextChunk data = (some chunk, endpoint)) :
    PendingNotify.Sound ⟨chunk, true⟩ := by
  obtain ⟨tag, sequence, -⟩ := Endpoint.nextChunk_fields rfl (counted_begun e data.length) next
  exact ⟨iff_of_true rfl tag, fun _ => sequence⟩

theorem Steady.fed (steady : x.Steady) {value : List UInt8} (fed : x.Fed value after) :
    after.Steady := by
  cases fed with
  | replied keeps _ control offered =>
    exact (steady.endpoint keeps.send).offered (sound_reply control) offered
  | received keeps => exact steady.endpoint keeps.send
  | aborted landed =>
    refine ⟨?_, steady.waits, steady.sound, counted_idle, Nat.zero_le _⟩
    rw [Countdown.isArmed_cancel]
    exact landed

theorem Steady.acknowledged (steady : x.Steady) (acknowledged : x.Acknowledged after) :
    after.Steady := by
  cases acknowledged with
  | ignored => exact steady
  | @released _ endpoint _ _ next queued =>
    have counted := Endpoint.nextChunk_counted steady.counted steady.short
    rw [next] at counted
    have cut : Steady { x with endpoint := endpoint } := { steady with counted := counted }
    exact cut.noted true queued
  | finished =>
    exact ⟨(Countdown.isArmed_cancel _).symm, steady.waits, steady.sound, counted_idle,
      Nat.zero_le _⟩

theorem Steady.answered (steady : x.Steady) (answered : x.Answered after) : after.Steady := by
  cases answered with
  | ignored => exact steady
  | silent _ idle => exact { steady with waits := fun held => absurd idle held }
  | @notified _ waiting _ queued =>
    have freed : Steady { x with awaitingWriteAck := false, pending := none } :=
      { steady with waits := fun held => absurd rfl held, sound := nofun }
    exact freed.noted waiting.ofMessage queued

theorem Steady.sent (steady : x.Steady) {data : List UInt8} {result : Except SendError Unit}
    (sent : x.Sent data result after) : after.Steady := by
  have counted (short : data.length ≤ messageCapacity) :=
    Endpoint.nextChunk_counted (counted_begun x.endpoint data.length) short
  cases sent with
  | refused => exact steady
  | overlong =>
    exact ⟨steady.timed, steady.waits, steady.sound, counted_idle, Nat.zero_le _⟩
  | stuck _ short next =>
    have counted := counted short
    rw [next] at counted
    exact ⟨steady.timed, steady.waits, steady.sound, counted, short⟩
  | @begun _ short _ endpoint next _ offered =>
    have counted := counted short
    rw [next] at counted
    have cut : Steady { x with endpoint := endpoint, txData := data } :=
      ⟨steady.timed, steady.waits, steady.sound, counted, short⟩
    exact cut.offered (sound_first next) offered

theorem steady_cleared (x : Exchange) : x.cleared.Steady :=
  ⟨rfl, fun held => absurd rfl held, nofun, counted_idle, Nat.zero_le _⟩

theorem Steady.ticked (steady : x.Steady) (ticked : x.Ticked after) : after.Steady := by
  cases ticked with
  | running timely =>
    exact { steady with timed := steady.timed.trans (Countdown.isArmed_tick timely).symm }
  | expired => exact steady_cleared x

end Exchange

theorem Core.Shift.steady {c : Core} {effect : Effect} {after : Exchange}
    (steady : c.exchange.Steady) (shift : c.Shift effect after) : after.Steady := by
  cases shift with
  | restarted | connected | disconnected => exact { c.exchange.steady_cleared with }
  | subscribed | encrypted | tuned | sequenced | other => exact { steady with }
  | written permit _ _ fed => exact (steady.answering permit).fed fed
  | permitted => exact { steady with waits := fun _ => rfl }
  | writeAcknowledged answered => exact steady.answered answered
  | notified acknowledged => exact steady.acknowledged acknowledged
  | ticked ticked => exact steady.ticked ticked
  | polled => exact steady.endpoint c.endpoint.takeComplete_keepsSend.send
  | sent _ sent => exact steady.sent sent

theorem Run.steady {settings : Settings} {random : RandomSource} {name : String}
    {address : List UInt8} {planeMode : Bool} {past : List (Core × Input)} {c : Core}
    (run : Run (.create settings random name address planeMode) past c) : c.exchange.Steady := by
  induction run with
  | start =>
    exact ⟨rfl, fun held => absurd rfl held, nofun, Exchange.counted_idle, Nat.zero_le _⟩
  | next _ input ih => exact (Core.step_shift _ input).steady ih

end Controller

end CardLink
