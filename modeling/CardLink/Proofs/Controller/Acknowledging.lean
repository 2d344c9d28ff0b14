import CardLink.Proofs.Controller.Fitting
import CardLink.Proofs.Controller.Intervals
import CardLink.Proofs.Controller.Outstanding
import CardLink.Proofs.Framing.Fragments

namespace CardLink

/-- The chunks that a new endpoint on this layout gives a sink that never fails. -/
def Layout.oneShot {kind : LinkKind} (layout : Layout kind) (data : List UInt8) :
    List (List UInt8) :=
  (({ layout := layout } : Endpoint kind).sendAll data {}).2.2.chunks

namespace Endpoint

variable {e : Endpoint .negotiated} {data : List UInt8}

/-- The chunks of this kind of link name no channel. -/
theorem pieces_begun_oneShot (wide : 6 ≤ e.chunkLength) (short : data.length ≤ 65535) :
    (e.begun data.length).pieces data = e.layout.oneShot data := by
  let fresh : Endpoint .negotiated := { layout := e.layout }
  obtain ⟨after, sent, -⟩ := sendAll_pieces (e := fresh) rfl rfl short {}
  have passed : ({} : Sink).chunks = [] := rfl
  have chunks := (Sink.transmitAll_willing (s := {}) rfl ((fresh.begun data.length).pieces data)).2
  have alike : (e.begun data.length).pieces data = (fresh.begun data.length).pieces data :=
    (pieces_begun (e := e) wide short).trans (pieces_begun (e := fresh) wide short).symm
  rw [Layout.oneShot, sent, chunks, passed, List.nil_append, alike]

theorem mem_oneShot (wide : 6 ≤ e.chunkLength) (short : data.length ≤ 65535)
    {chunk : List UInt8} (member : chunk ∈ e.layout.oneShot data) :
    chunk.length ≤ e.chunkLength := by
  have fragments : e.layout.oneShot data =
      Chunk.fragments .negotiated e.session.channel e.chunkLength data :=
    (pieces_begun_oneShot wide short).symm.trans (pieces_begun wide short)
  rw [fragments] at member
  exact (Chunk.fragments_fragmentation wide short _).fits chunk member

/-- Any endpoint on the layout that is free, and has no reply to give, sends the same chunks. -/
theorem sendAll_oneShot (free : e.isSending = false) (unheld : e.held = none)
    (wide : 6 ≤ e.chunkLength) (short : data.length ≤ 65535) {sink : Sink}
    (willing : sink.outcomes = []) :
    (e.sendAll data sink).1 = .ok () ∧
      (e.sendAll data sink).2.2.chunks = sink.chunks ++ e.layout.oneShot data := by
  obtain ⟨after, sent, -⟩ := sendAll_pieces free unheld short sink
  rw [sent, ← pieces_begun_oneShot wide short]
  exact Sink.transmitAll_willing willing _

end Endpoint

namespace Countdown

/-- This many steps do not let the countdown expire. -/
structure Lasts (c : Countdown) (steps step : Nat) : Prop where
  live : c.phase ≠ .expired
  early : 0 < steps → c.phase = .armed → c.elapsed + steps * step < c.limit

theorem Lasts.tick {c : Countdown} {steps step : Nat} (lasts : c.Lasts (steps + 1) step) :
    (c.tick step).phase = c.phase ∧ (c.tick step).Lasts steps step := by
  unfold Countdown.tick
  split
  · rename_i armed
    have early := lasts.early steps.succ_pos armed
    rw [Nat.succ_mul] at early
    have more : ¬c.limit ≤ c.elapsed + step := by omega
    simp only [more, if_false]
    refine ⟨armed.symm, nofun, fun _ _ => ?_⟩
    dsimp only
    omega
  · rename_i idle
    exact ⟨rfl, lasts.live, fun _ armed => absurd armed idle⟩

theorem cancel_live {c : Countdown} (live : c.phase ≠ .expired) : c.cancel.phase ≠ .expired := by
  unfold cancel
  split
  · exact nofun
  · exact live

end Countdown

/-- Fewer ticks than the transfer timeout lasts. -/
def Settings.Timely (s : Settings) (ticks : Nat) : Prop :=
  ticks = 0 ∨ ticks * s.tick.toNat < s.transferTimeout.toNat

namespace Controller

def Input.isTick : Input → Bool
  | .tick => true
  | _ => false

/-- Time passes and frames are written; then the controller completes a notification. -/
structure Round where
  meanwhile : List Input
  packet : EventPacket

namespace Round

structure Proper (settings : Settings) (round : Round) : Prop where
  idle : ∀ input ∈ round.meanwhile, input = .tick ∨ input = .nextCommand
  timely : settings.Timely (round.meanwhile.countP Input.isTick)
  kind : round.packet.kind = .commandComplete
  opcode : round.packet.opcode = some Command.updateCharValue.opcode

/-- The state that the completion meets. -/
def meets (round : Round) (c : Core) : Core := round.meanwhile.foldl Core.step c

def leaves (round : Round) (c : Core) : Core := (round.meets c).step (.packet round.packet)

end Round

namespace Core

def through (c : Core) (rounds : List Round) : Core :=
  rounds.foldl (fun c round => round.leaves c) c

/-- Every completion finds room in the outbox. -/
def HasRoom (c : Core) : List Round → Prop
  | [] => True
  | round :: rounds =>
    (round.meets c).outbox.length < outboxCapacity ∧ (round.leaves c).HasRoom rounds

/-- Every completion has the next of these commands queued, as long as there is one, and nothing
else is queued. -/
def Yields (c : Core) : List Round → List Post → Prop
  | [], _ => True
  | round :: rounds, posts =>
    (round.meets c).outbox <:+ c.outbox ∧
      (round.leaves c).outbox =
        (round.meets c).outbox ++ (posts.head?.map Post.frame).toList ∧
      (round.leaves c).Yields rounds posts.tail

/-- The message is accepted and the first of these commands is queued, every completion has the
next one queued, and when there has been one for each chunk the link is free to send again. -/
structure SendsInTurn (c : Core) (data : List UInt8) (rounds : List Round) (posts : List Post) :
    Prop where
  accepted : (c.sendMessage data).1 = .ok ()
  queued : ∃ first rest, posts = first :: rest ∧
    (c.sendMessage data).2.outbox = c.outbox ++ [first.frame] ∧
    (c.sendMessage data).2.Yields rounds rest
  released : (c.endpoint.layout.oneShot data).length ≤ rounds.length →
    let after := (c.sendMessage data).2.through rounds
    after.endpoint.isSending = false ∧ after.transferTimeout.isArmed = false ∧
      after.chunkInFlight = false

/-- The shortest interval is asked for, at the latency there is. -/
def intervalRequest (c : Core) : Post :=
  let supervision := UInt16.ofNat (min 65535 (c.settings.connParamTimeout.toNat / 10))
  ⟨.updateConnection, Word.little c.connection.handle ++
    Word.little c.settings.connIntervalMin ++ Word.little c.settings.connIntervalMin ++
    Word.little c.connection.latency ++ Word.little supervision, []⟩

variable {c : Core} {settings : Settings} {data : List UInt8}

theorem intervalPost?_isSome (c : Core) : c.intervalPost?.isSome = true ↔
    ¬c.connectionUpdated = true ∧ c.settings.connIntervalMin < c.connection.interval := by
  simp only [intervalPost?]
  split
  · rename_i due
    exact iff_of_true rfl due
  · rename_i idle
    exact iff_of_false Bool.false_ne_true idle

theorem intervalPost?_toList (c : Core) :
    c.intervalPost?.toList = if c.intervalPost?.isSome then [c.intervalRequest] else [] := by
  simp only [intervalPost?]
  split <;> rfl

theorem notify_room {chunk : List UInt8} (room : c.outbox.length < outboxCapacity)
    (fits : (c.chunkPost chunk).Fits) : c.notify chunk true = { c with
      chunkInFlight := true
      transferTimeout := c.transferTimeout.arm (Settings.microseconds c.settings.transferTimeout)
      outbox := c.outbox ++ [(c.chunkPost chunk).frame] } :=
  send_room (c := { c with
    chunkInFlight := true
    transferTimeout :=
      c.transferTimeout.arm (Settings.microseconds c.settings.transferTimeout) }) room fits

theorem finishMessage_room (room : c.outbox.length < outboxCapacity)
    (sending : c.endpoint.isSending = true) : c.finishMessage = { c with
      endpoint := c.endpoint.finishSend
      txData := []
      transferTimeout := c.transferTimeout.cancel
      connectionUpdated := c.connectionUpdated || c.intervalPost?.isSome
      outbox := c.outbox ++ (c.intervalPost?.map Post.frame).toList } := by
  have fit := c.intervalPost?_fit
  simp only [finishMessage, sending, Bool.not_true, Bool.false_eq_true, if_false, requestInterval]
  simp only [intervalPost?] at fit ⊢
  split
  · rename_i due
    rw [if_pos due] at fit
    rw [Option.isSome_some, Bool.or_true]
    exact send_room (c := { c with
      endpoint := c.endpoint.finishSend
      txData := []
      transferTimeout := c.transferTimeout.cancel
      connectionUpdated := true }) room (fit _ rfl)
  · simp

/-- A message is on its way, or has gone out: so many completions are still to come until it has,
and these are the commands that they are to queue. -/
inductive Underway (c : Core) : Nat → List Post → Prop
  | flying (ready : c.phase = .ready) (flying : c.chunkInFlight = true)
      (sending : c.endpoint.isSending = true) (bounded : c.exchange.Bounded) :
      Underway c ((c.endpoint.pieces c.txData).length + 1)
        ((c.endpoint.pieces c.txData).map c.chunkPost ++ c.intervalPost?.toList)
  | out (ready : c.phase = .ready) (landed : c.chunkInFlight = false)
      (free : c.endpoint.isSending = false) (stopped : c.transferTimeout.isArmed = false) :
      Underway c 0 []

/-- As many ticks as may pass between two completions do not end the transfer. -/
structure Patient (settings : Settings) (c : Core) : Prop where
  same : c.settings = settings
  lasts : ∀ ticks, settings.Timely ticks →
    c.transferTimeout.Lasts ticks (Settings.microseconds settings.tick)

theorem patient_armed (same : c.settings = settings)
    (armed : c.transferTimeout =
      ({} : Countdown).arm (Settings.microseconds c.settings.transferTimeout)) :
    c.Patient settings := by
  refine ⟨same, fun ticks timely => ?_⟩
  rw [armed, same]
  refine ⟨nofun, fun some _ => ?_⟩
  have early := timely.resolve_left (Nat.ne_of_gt some)
  simp only [Countdown.arm, Settings.microseconds, Nat.zero_add, ← Nat.mul_assoc]
  omega

theorem patient_stopped (same : c.settings = settings)
    (stopped : c.transferTimeout.isArmed = false) (live : c.transferTimeout.phase ≠ .expired) :
    c.Patient settings :=
  ⟨same, fun _ _ => ⟨live, fun _ armed => absurd armed (beq_eq_false_iff_ne.mp stopped)⟩⟩

/-- Writing a frame changes nothing but the outbox. -/
theorem step_nextCommand (c : Core) :
    ∃ queue, queue <:+ c.outbox ∧ c.step .nextCommand = { c with outbox := queue } := by
  simp only [step, nextCommand]
  split
  · exact ⟨c.outbox, List.suffix_refl _, rfl⟩
  · rename_i frame rest queued
    exact ⟨rest, queued ▸ List.suffix_cons frame rest, rfl⟩

/-- While time passes and frames are written, the transfer goes on. -/
theorem idles {inputs : List Input} (same : c.settings = settings)
    (idle : ∀ input ∈ inputs, input = .tick ∨ input = .nextCommand)
    (lasts : c.transferTimeout.Lasts (inputs.countP Input.isTick)
      (Settings.microseconds settings.tick)) :
    ∃ rest timer, rest <:+ c.outbox ∧ timer.phase = c.transferTimeout.phase ∧
      inputs.foldl Core.step c = { c with outbox := rest, transferTimeout := timer } := by
  induction inputs generalizing c with
  | nil => exact ⟨c.outbox, c.transferTimeout, List.suffix_refl _, rfl, rfl⟩
  | cons input inputs ih =>
    have later : ∀ input ∈ inputs, input = .tick ∨ input = .nextCommand :=
      fun other member => idle other (List.mem_cons_of_mem _ member)
    obtain rfl | rfl := idle input List.mem_cons_self
    · rw [List.countP_cons_of_pos rfl] at lasts
      obtain ⟨phase, still⟩ := lasts.tick
      have ticked : c.step .tick = { c with
          transferTimeout := c.transferTimeout.tick (Settings.microseconds settings.tick) } := by
        have timely : (c.transferTimeout.tick (Settings.microseconds settings.tick)).phase ≠
            .expired := still.live
        simp only [step, onTick, same, timely, if_false]
      obtain ⟨rest, timer, fewer, kept, reached⟩ := ih (c := { c with
        transferTimeout := c.transferTimeout.tick (Settings.microseconds settings.tick) })
        same later still
      exact ⟨rest, timer, fewer, kept.trans phase, by rw [List.foldl_cons, ticked, reached]⟩
    · rw [List.countP_cons_of_neg Bool.false_ne_true] at lasts
      obtain ⟨queue, shorter, written⟩ := c.step_nextCommand
      obtain ⟨rest, timer, fewer, kept, reached⟩ :=
        ih (c := { c with outbox := queue }) same later lasts
      exact ⟨rest, timer, fewer.trans shorter, kept,
        by rw [List.foldl_cons, written, reached]⟩

theorem step_completion {round : Round} (proper : round.Proper settings)
    (ready : c.phase = .ready) : c.step (.packet round.packet) = c.onNotifyComplete := by
  have other : Command.updateCharValue.opcode ≠ Command.writeResponse.opcode := by decide
  simp only [step, onPacket, proper.kind, onCommandComplete, proper.opcode, ready, other, if_true,
    if_false]

/-- The completion of a chunk has the next one queued. -/
theorem onNotifyComplete_further {chunk : List UInt8} {endpoint : Endpoint .negotiated}
    (same : c.settings = settings) (ready : c.phase = .ready) (flying : c.chunkInFlight = true)
    (sending : c.endpoint.isSending = true) (bounded : c.exchange.Bounded)
    (room : c.outbox.length < outboxCapacity)
    (next : c.endpoint.nextChunk c.txData = (some chunk, endpoint)) :
    c.onNotifyComplete.outbox = c.outbox ++ [(c.chunkPost chunk).frame] ∧
      c.onNotifyComplete.Underway ((endpoint.pieces c.txData).length + 1)
        ((endpoint.pieces c.txData).map c.chunkPost ++ c.intervalPost?.toList) ∧
      c.onNotifyComplete.Patient settings := by
  have still := (c.endpoint.nextChunk_isSending c.txData).trans sending
  have layout := c.endpoint.nextChunk_layout c.txData
  rw [next] at still layout
  have short := bounded.short (Endpoint.nextChunk_length next) (by decide)
  let further : Core := { c with chunkInFlight := false, endpoint := endpoint }
  have kept : further.exchange.Bounded :=
    bounded.terms (Exchange.terms_endpoint (x := c.exchange) layout)
  have completed : c.onNotifyComplete = further.notify chunk true := by
    simp only [onNotifyComplete, flying, sending, next, if_true, further]
  rw [completed, notify_room (c := further) room (chunkPost_fits short)]
  exact ⟨rfl, .flying ready rfl still { kept with }, patient_armed same rfl⟩

/-- The completion of the last chunk ends the send, and has the interval asked for. -/
theorem onNotifyComplete_last {endpoint : Endpoint .negotiated} (same : c.settings = settings)
    (live : c.transferTimeout.phase ≠ .expired) (ready : c.phase = .ready)
    (flying : c.chunkInFlight = true) (sending : c.endpoint.isSending = true)
    (room : c.outbox.length < outboxCapacity)
    (next : c.endpoint.nextChunk c.txData = (none, endpoint)) :
    c.onNotifyComplete.outbox = c.outbox ++ (c.intervalPost?.map Post.frame).toList ∧
      c.onNotifyComplete.Underway 0 [] ∧ c.onNotifyComplete.Patient settings := by
  have still := (c.endpoint.nextChunk_isSending c.txData).trans sending
  rw [next] at still
  let last : Core := { c with chunkInFlight := false, endpoint := endpoint }
  have completed : c.onNotifyComplete = last.finishMessage := by
    simp only [onNotifyComplete, flying, sending, next, if_true, last]
  have stopped := c.transferTimeout.isArmed_cancel
  rw [completed, finishMessage_room (c := last) room still]
  exact ⟨rfl, .out ready rfl rfl stopped, patient_stopped same stopped (Countdown.cancel_live live)⟩

/-- A completion has the next command queued. -/
theorem Underway.completed {left : Nat} {posts : List Post} (underway : c.Underway left posts)
    (same : c.settings = settings) (live : c.transferTimeout.phase ≠ .expired)
    (room : c.outbox.length < outboxCapacity) :
    c.onNotifyComplete.outbox = c.outbox ++ (posts.head?.map Post.frame).toList ∧
      c.onNotifyComplete.Underway (left - 1) posts.tail ∧
      c.onNotifyComplete.Patient settings := by
  cases underway with
  -- A completion too many, as that of a control reply queued before, is passed over.
  | out ready landed free stopped =>
    have ignored : c.onNotifyComplete = c := by
      simp only [onNotifyComplete, landed, Bool.false_eq_true, if_false]
    rw [ignored]
    exact ⟨(List.append_nil _).symm, .out ready landed free stopped,
      patient_stopped same stopped live⟩
  | flying ready flying sending bounded =>
    rcases next : c.endpoint.nextChunk c.txData with ⟨_ | chunk, endpoint⟩
    · have none : c.endpoint.pieces c.txData = [] := Endpoint.cut_none next
      obtain ⟨queued, out, patient⟩ :=
        onNotifyComplete_last same live ready flying sending room next
      rw [none, List.map_nil, List.nil_append]
      cases asks : c.intervalPost? <;> rw [asks] at queued <;> exact ⟨queued, out, patient⟩
    · rw [Endpoint.pieces_some next]
      exact onNotifyComplete_further same ready flying sending bounded room next

theorem Underway.waiting {left : Nat} {posts : List Post} (underway : c.Underway left posts)
    (rest : List (List UInt8)) {timer : Countdown} (phase : timer.phase = c.transferTimeout.phase) :
    ({ c with outbox := rest, transferTimeout := timer } : Core).Underway left posts := by
  cases underway with
  | flying ready flying sending bounded => exact .flying ready flying sending { bounded with }
  | out ready landed free stopped =>
    refine .out ready landed free ?_
    show (timer.phase == .armed) = false
    rw [phase]
    exact stopped

/-- From one completion to the next, frames are written and a command is queued. -/
theorem Underway.next {left : Nat} {posts : List Post} (underway : c.Underway left posts)
    (patient : c.Patient settings) {round : Round} (proper : round.Proper settings)
    (room : (round.meets c).outbox.length < outboxCapacity) :
    (round.meets c).outbox <:+ c.outbox ∧
      (round.leaves c).outbox = (round.meets c).outbox ++ (posts.head?.map Post.frame).toList ∧
      (round.leaves c).Underway (left - 1) posts.tail ∧ (round.leaves c).Patient settings := by
  have lasts := patient.lasts _ proper.timely
  have ready : c.phase = .ready := by cases underway <;> assumption
  obtain ⟨rest, timer, fewer, phase, reached⟩ := idles patient.same proper.idle lasts
  let waited : Core := { c with outbox := rest, transferTimeout := timer }
  have meets : round.meets c = waited := reached
  have completed : round.leaves c = waited.onNotifyComplete := by
    rw [Round.leaves, meets]
    exact step_completion proper ready
  rw [meets] at room ⊢
  rw [completed]
  exact ⟨fewer, (underway.waiting rest phase).completed patient.same (phase ▸ lasts.live) room⟩

theorem Underway.yields {left : Nat} {posts : List Post} {rounds : List Round}
    (underway : c.Underway left posts) (patient : c.Patient settings)
    (proper : ∀ round ∈ rounds, round.Proper settings) (room : c.HasRoom rounds) :
    c.Yields rounds posts ∧ (c.through rounds).Underway (left - rounds.length)
      (posts.drop rounds.length) := by
  -- On the rounds: what is still due is carried along, and is nothing once the message is out.
  induction rounds generalizing c left posts with
  | nil => exact ⟨trivial, underway⟩
  | cons round rounds ih =>
    obtain ⟨here, further⟩ := room
    obtain ⟨fewer, queued, still, patient⟩ :=
      underway.next patient (proper round List.mem_cons_self) here
    obtain ⟨yields, after⟩ := ih still patient
      (fun other member => proper other (List.mem_cons_of_mem _ member)) further
    rw [List.drop_tail, Nat.sub_sub, Nat.add_comm] at after
    exact ⟨⟨fewer, queued, yields⟩, after⟩

theorem Underway.landed {posts : List Post} (underway : c.Underway 0 posts) :
    c.endpoint.isSending = false ∧ c.transferTimeout.isArmed = false ∧ c.chunkInFlight = false := by
  cases underway with
  | out ready landed free stopped => exact ⟨free, stopped, landed⟩

/-- The first chunk is queued, and the others are to follow. -/
theorem sendMessage_underway (live : c.Live) (free : c.endpoint.isSending = false)
    (answered : c.awaitingWriteAck = false) (roomy : c.exchange.Roomy)
    (bounded : c.exchange.Bounded) (short : data.length ≤ messageCapacity)
    (room : c.outbox.length < outboxCapacity) :
    ∃ first rest, c.endpoint.layout.oneShot data = first :: rest ∧
      (c.sendMessage data).1 = .ok () ∧
      (c.sendMessage data).2.outbox = c.outbox ++ [(c.chunkPost first).frame] ∧
      (c.sendMessage data).2.Underway (rest.length + 1)
        (rest.map c.chunkPost ++ c.intervalPost?.toList) ∧
      (c.sendMessage data).2.Patient c.settings := by
  have counted : data.length ≤ 65535 := Nat.le_trans short (by decide)
  have begun : c.endpoint.beginSend data.length = (.ok (), c.endpoint.begun data.length) :=
    Endpoint.beginSend_ok free counted
  have cut := Endpoint.pieces_begun_oneShot roomy.chunkLength counted
  rcases next : (c.endpoint.begun data.length).nextChunk data with ⟨_ | chunk, endpoint⟩
  · exact absurd next roomy.nextChunk_begun
  have sending := (c.endpoint.begun data.length).nextChunk_isSending data
  have layout := (c.endpoint.begun data.length).nextChunk_layout data
  rw [next] at sending layout
  have bounded' : Exchange.Bounded { c.exchange with endpoint := endpoint } :=
    bounded.terms (Exchange.terms_endpoint layout)
  have oneShot : c.endpoint.layout.oneShot data = chunk :: endpoint.pieces data :=
    cut.symm.trans (Endpoint.pieces_some next)
  have small := Endpoint.mem_oneShot roomy.chunkLength counted (oneShot ▸ List.mem_cons_self)
  have fits : (c.chunkPost chunk).Fits := chunkPost_fits (Nat.le_trans small bounded.chunkLength)
  let first : Core := { c with endpoint := endpoint, txData := data }
  have sent : c.sendMessage data = (.ok (), first.notify chunk true) := by
    simp only [sendMessage, live.2, begun, Nat.not_lt.mpr short, next, queueNotify, answered,
      if_true, if_false, Bool.false_eq_true, first]
  refine ⟨chunk, endpoint.pieces data, oneShot, congrArg Prod.fst sent, ?_⟩
  rw [sent, notify_room (c := first) room fits]
  exact ⟨rfl, .flying live.1 rfl sending { bounded' with }, patient_armed rfl rfl⟩

end Core

variable {settings : Settings} {random : RandomSource} {name : String} {address : List UInt8}
  {planeMode : Bool} {past : List (Core × Input)} {c : Core} {data : List UInt8}
  {rounds : List Round}

/-- A message goes out in acknowledged chunks just as it does in one shot, if the outbox has room
when it is sent and at every completion. The request for the shortest interval follows the last
chunk if the interval is longer and the link has not asked for it since the client connected. -/
theorem Run.queues_oneShot (valid : settings.validate = .ok ())
    (run : Run (.create settings random name address planeMode) past c) (live : c.Live)
    (free : c.endpoint.isSending = false) (answered : c.awaitingWriteAck = false)
    (short : data.length ≤ messageCapacity) (room : c.outbox.length < outboxCapacity)
    (proper : ∀ round ∈ rounds, round.Proper settings)
    (further : (c.sendMessage data).2.HasRoom rounds) :
    ∃ asks : Bool, (asks = true ↔
        settings.connIntervalMin < c.connection.interval ∧ ¬Since AsksInterval Renews past) ∧
      (∀ chunk ∈ c.endpoint.layout.oneShot data, chunk.length ≤ maxChunkLength) ∧
      c.SendsInTurn data rounds ((c.endpoint.layout.oneShot data).map c.chunkPost ++
        if asks then [c.intervalRequest] else []) := by
  have roomy := run.roomy valid
  have same := run.settings_eq
  obtain ⟨first, rest, cut, accepted, queued, underway, patient⟩ :=
    Core.sendMessage_underway live free answered roomy run.bounded short room
  rw [same] at patient
  obtain ⟨yields, after⟩ := underway.yields patient proper further
  refine ⟨c.intervalPost?.isSome, ?_, ?_, accepted, ⟨c.chunkPost first, _, ?_, queued, yields⟩, ?_⟩
  · rw [c.intervalPost?_isSome, ← run.connectionUpdated_iff, same, and_comm]
  · intro chunk member
    have counted : data.length ≤ 65535 := Nat.le_trans short (by decide)
    exact Nat.le_trans (Endpoint.mem_oneShot roomy.chunkLength counted member)
      run.bounded.chunkLength
  · rw [cut, c.intervalPost?_toList]
    rfl
  · intro enough
    rw [cut, List.length_cons] at enough
    rw [Nat.sub_eq_zero_of_le enough] at after
    exact after.landed

/-- Thirty bytes go out in two chunks, each acknowledged just in time, and the interval is longer
than it need be. -/
theorem Run.queues_oneShot_slow :
    let initial := Core.create .standard (.stepping 0 1) "card" [1, 2, 3, 4, 5, 6] true
    let inputs := Input.session ++ [.event EventCode.leMeta (0x03 :: 0x00 ::
      [0x0801, 40, 2, 500].flatMap Word.little)]
    let c := inputs.foldl Core.step initial
    let data := List.replicate 30 0xA5
    let round : Round := ⟨.nextCommand :: List.replicate 19 .tick,
      ⟨Platform.completion Command.updateCharValue.opcode []⟩⟩
    ∃ past, Run initial past c ∧ Settings.standard.validate = .ok () ∧ c.Live ∧
      c.endpoint.isSending = false ∧ c.awaitingWriteAck = false ∧
      data.length ≤ messageCapacity ∧ c.outbox.length < outboxCapacity ∧
      round.Proper .standard ∧ (c.sendMessage data).2.HasRoom [round, round] ∧
      (c.endpoint.layout.oneShot data).length = 2 ∧
      ∃ asks : Bool, (asks = true ↔
          Settings.standard.connIntervalMin < c.connection.interval ∧
            ¬Since AsksInterval Renews past) ∧
        (∀ chunk ∈ c.endpoint.layout.oneShot data, chunk.length ≤ maxChunkLength) ∧
        c.SendsInTurn data [round, round] ((c.endpoint.layout.oneShot data).map c.chunkPost ++
          if asks then [c.intervalRequest] else []) := by
  intro initial inputs c data round
  obtain ⟨past, run⟩ := Run.script initial inputs
  have live : c.Live := by decide +kernel
  have free : c.endpoint.isSending = false := by decide +kernel
  have answered : c.awaitingWriteAck = false := by decide +kernel
  have room : c.outbox.length < outboxCapacity := by decide +kernel
  have further : (c.sendMessage data).2.HasRoom [round, round] :=
    ⟨by decide +kernel, by decide +kernel, trivial⟩
  have proper : round.Proper .standard := by
    refine ⟨fun input member => ?_, .inr (by decide), rfl, rfl⟩
    obtain rfl | tick := List.mem_cons.mp member
    · exact .inr rfl
    · exact .inl (List.eq_of_mem_replicate tick)
  have both : ∀ other ∈ [round, round], other.Proper .standard := by
    simp only [List.mem_cons, List.not_mem_nil, or_false, or_self, forall_eq]
    exact proper
  exact ⟨past, run, rfl, live, free, answered, by decide, room, proper, further, by decide +kernel,
    run.queues_oneShot rfl live free answered (by decide) room both further⟩

/-- With a full outbox a message is accepted and no chunk of it is queued. A request for the
shortest interval that was lost in that way is not made again: it does not follow a later message
that has all the room there is. -/
theorem lost_outbox_full :
    let initial := Core.create .standard (.stepping 0 1) "card" [1, 2, 3, 4, 5, 6] true
    let filled : List Input := List.replicate 8 (.enableAdvertising true)
    let updated : Input := .event EventCode.leMeta (0x03 :: 0x00 ::
      [0x0801, 40, 2, 500].flatMap Word.little)
    let data := [0x90, 0x00]
    let inputs := Input.session ++ filled
    let later := Input.session ++ [updated, .sendMessage data, .nextCommand] ++ filled ++
      [.completed .updateCharValue] ++ List.replicate 8 .nextCommand
    let c := inputs.foldl Core.step initial
    let d := later.foldl Core.step initial
    let round : Round := ⟨[.nextCommand], ⟨Platform.completion Command.updateCharValue.opcode []⟩⟩
    Settings.standard.validate = .ok () ∧ data.length ≤ messageCapacity ∧
    (∃ past, Run initial past c ∧ c.Live ∧ c.endpoint.isSending = false ∧
      c.chunkInFlight = false ∧ c.awaitingWriteAck = false ∧
      c.endpoint.layout.oneShot data = [[0x05, 0x00, 0x00, 0x00, 0x02, 0x90, 0x00]] ∧
      (c.sendMessage data).1 = .ok () ∧ (c.sendMessage data).2.outbox = c.outbox ∧
      c.notices = []) ∧
    ∃ past, Run initial past d ∧ d.Live ∧ d.endpoint.isSending = false ∧
      d.chunkInFlight = false ∧ d.awaitingWriteAck = false ∧
      Settings.standard.connIntervalMin < d.connection.interval ∧
      (∀ state ∈ later.scanl Core.step initial, ∀ frame ∈ state.outbox,
        Frame.opcode frame ≠ Command.updateConnection.opcode) ∧
      (round.leaves (d.sendMessage data).2).endpoint.isSending = false ∧
      (round.leaves (d.sendMessage data).2).outbox = [] := by
  intro initial filled updated data inputs later c d round
  refine ⟨rfl, by decide, ?_, ?_⟩
  · obtain ⟨past, run⟩ := Run.script initial inputs
    exact ⟨past, run, by decide +kernel, by decide +kernel, by decide +kernel, by decide +kernel,
      by decide +kernel, by decide +kernel, by decide +kernel, by decide +kernel⟩
  · obtain ⟨past, run⟩ := Run.script initial later
    exact ⟨past, run, by decide +kernel, by decide +kernel, by decide +kernel, by decide +kernel,
      by decide +kernel, by decide +kernel, by decide +kernel, by decide +kernel⟩

end Controller

end CardLink
