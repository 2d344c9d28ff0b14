import CardLink.Proofs.Legacy.Delivery
import CardLink.Proofs.Legacy.Retrying

namespace CardLink.Legacy

namespace Link

/-- The link at each of this many writes of one value, with a wait after each but the last. -/
def attempts (params : List UInt8) : Nat → Link → List Link
  | 0, _ => []
  | count + 1, l => l :: attempts params count (l.write params).2.waitTxPool.2

end Link

/-- A chunk of a message that goes out. -/
structure Round where
  /-- The link as the first write finds it. -/
  start : Link
  chunk : List UInt8

namespace Round

def params (r : Round) : List UInt8 :=
  Link.valueParams r.start.core.handles.service r.start.core.handles.tx r.chunk

/-- The one frame that notifies the chunk. -/
def frame (r : Round) : List UInt8 := (updateRequest r.params).frame

/-- Every write of the chunk with its answer. -/
def tries (r : Round) : List Update := r.start.notifyUpdates r.chunk

def outcome (r : Round) : Except WriteError Unit := (r.start.notify r.chunk).1

/-- The link when the chunk has been taken or has failed. -/
def sent (r : Round) : Link := (r.start.notify r.chunk).2

/-- The transmit of the chunk is over. -/
def unwound (r : Round) : Link := r.sent.withEndpoint r.sent.core.endpoint.leaveTransmit

/-- What was held back or queued meanwhile. -/
def replies (r : Round) : List Update := r.unwound.replyUpdates

/-- All that the round gave rise to has been written. -/
def ended (r : Round) : Link := r.unwound.flushDeferred.runActions

/-- The link at each write of the chunk. -/
def writes (r : Round) : List Link := r.start.attempts r.params r.tries.length

/-- The link at each write of the chunk, then when the chunk is through, and when the round is. -/
def moments (r : Round) : List Link := r.writes ++ [r.sent, r.ended]

end Round

namespace Link

variable {l after : Link} {params data : List UInt8} {r : Round}

/-- The next round of a send, unless no chunk is left or the send has been cancelled. -/
def round? (l : Link) (data : List UInt8) : Option Round :=
  match l.core.endpoint.nextChunk data with
  | (none, _) => none
  | (some chunk, cut) =>
    match cut.enterTransmit with
    | (.error _, _) => none
    | (.ok (), entered) => some ⟨l.withEndpoint entered, chunk⟩

def chunkRounds (data : List UInt8) : Nat → Link → List Round
  | 0, _ => []
  | steps + 1, l =>
    match l.round? data with
    | none => []
    | some r =>
      r :: match r.outcome with
        | .error _ => []
        | .ok () => chunkRounds data steps r.ended

def sendRounds (l : Link) (data : List UInt8) : List Round :=
  match l.core.endpoint.beginSend data.length with
  | (.error _, _) => []
  | (.ok (), endpoint) => chunkRounds data (data.length + 1) (l.withEndpoint endpoint)

/-- A round begins with the chunk cut off and the transmit entered. -/
theorem round?_eq_some (begun : l.round? data = some r) : ∃ cut entered,
    l.core.endpoint.nextChunk data = (some r.chunk, cut) ∧
      cut.enterTransmit = (.ok (), entered) ∧ r.start = l.withEndpoint entered := by
  unfold round? at begun
  split at begun
  · cases begun
  · rename_i chunk cut next
    split at begun <;> cases begun
    rename_i entered entry
    exact ⟨cut, entered, next, entry, rfl⟩

theorem sendChunks_some (begun : l.round? data = some r) (steps : Nat) :
    sendChunks data (steps + 1) l =
      match r.outcome with
      | .error error => (.error (.link error), r.ended)
      | .ok () => sendChunks data steps r.ended := by
  obtain ⟨cut, entered, next, entry, start⟩ := round?_eq_some begun
  obtain ⟨_, chunk⟩ := r
  cases start
  simp only [sendChunks, next, entry]
  rfl

theorem chunkUpdates_some (begun : l.round? data = some r) (steps : Nat) :
    chunkUpdates data (steps + 1) l = r.tries ++ (r.replies ++
      match r.outcome with
      | .error _ => []
      | .ok () => chunkUpdates data steps r.ended) := by
  obtain ⟨cut, entered, next, entry, start⟩ := round?_eq_some begun
  obtain ⟨_, chunk⟩ := r
  cases start
  simp only [chunkUpdates, next, entry]
  rfl

/-- Where no round begins, no chunk is left or the send has been cancelled. -/
theorem sendChunks_none (stopped : l.round? data = none) (steps : Nat) :
    chunkUpdates data (steps + 1) l = [] ∧ ∃ endpoint,
      (l.core.endpoint.nextChunk data).1 = none ∧
          sendChunks data (steps + 1) l = (.ok (), l.withEndpoint endpoint) ∨
        (l.core.endpoint.nextChunk data).1 ≠ none ∧
          sendChunks data (steps + 1) l = (.error .aborted, l.withEndpoint endpoint) := by
  unfold round? at stopped
  simp only [chunkUpdates, sendChunks]
  generalize l.core.endpoint.nextChunk data = next at *
  obtain ⟨_ | chunk, cut⟩ := next
  · exact ⟨rfl, cut, .inl ⟨rfl, rfl⟩⟩
  · simp only [Endpoint.enterTransmit] at stopped ⊢
    by_cases sending : cut.session.lock.sending = true
    · simp only [SendLock.enter, if_pos sending] at stopped
      cases stopped
    · simp only [SendLock.enter, if_neg sending]
      exact ⟨trivial, cut, .inr ⟨Option.some_ne_none chunk, rfl⟩⟩

/-- A round begins only while the send has its lock. -/
theorem round?_held (begun : l.round? data = some r) :
    l.core.endpoint.isSending = true ∧ r.start.core.endpoint.isSending = true := by
  obtain ⟨cut, entered, next, entry, start⟩ := round?_eq_some begun
  have same : cut.session = l.core.endpoint.session := by
    obtain ⟨-, -, -, rfl⟩ := Endpoint.nextChunk_some next
    rfl
  simp only [Endpoint.enterTransmit, SendLock.enter] at entry
  split at entry <;> rename_i lock <;> split at lock <;> cases lock <;> cases entry
  rename_i held
  rw [start]
  exact ⟨(congrArg (·.lock.sending) same).symm.trans held, held⟩

/-- Nothing is done to the platform but to write this frame, again and again, and to wait. -/
def Repeats (frame : List UInt8) (l after : Link) : Prop :=
  ∃ acts, after.platform.log = acts ++ l.platform.log ∧
    ∀ act ∈ acts, act = .wrote frame ∨ act = .refused frame ∨ ∃ time, act = .paused time

theorem Repeats.refl (frame : List UInt8) (l : Link) : Repeats frame l l := ⟨[], rfl, nofun⟩

theorem Repeats.trans {frame : List UInt8} {a b c : Link} (first : Repeats frame a b)
    (second : Repeats frame b c) : Repeats frame a c := by
  obtain ⟨acts, log, only⟩ := first
  obtain ⟨later, logged, same⟩ := second
  exact ⟨later ++ acts, by rw [logged, log, List.append_assoc],
    List.forall_mem_append.mpr ⟨same, only⟩⟩

theorem write_repeats (l : Link) (params : List UInt8) :
    Repeats (updateRequest params).frame l (l.write params).2 := by
  refine ⟨_, write_log l params, fun act acted => ?_⟩
  unfold Update.acts Request.acts at acted
  split at acted
  · exact .inr (.inl (List.mem_singleton.mp acted))
  · cases acted
  · cases acted
  · exact .inl (List.mem_singleton.mp acted)

theorem waitTxPool_repeats (frame : List UInt8) (l : Link) : Repeats frame l l.waitTxPool.2 := by
  unfold waitTxPool
  split
  · exact .refl frame l
  · exact ⟨[_], rfl, fun act one => .inr (.inr ⟨_, List.mem_singleton.mp one⟩)⟩

theorem Writes.repeats {updates : List Update} {result : Except WriteError Unit}
    (writes : Writes params l updates result after) :
    Repeats (updateRequest params).frame l after := by
  induction writes with
  | exhausted l => exact .refl _ l
  | ended => exact write_repeats _ params
  | stranded => exact (write_repeats _ params).trans (waitTxPool_repeats _ _)
  | again _ _ ih => exact ((write_repeats _ params).trans (waitTxPool_repeats _ _)).trans ih

/-- What is asked at the writes of a value. -/
theorem Writes.tries {updates : List Update} {result : Except WriteError Unit}
    (writes : Writes params l updates result after) :
    updates = (l.attempts params updates.length).map fun m => ⟨params, (m.write params).1⟩ := by
  induction writes with
  | exhausted | ended | stranded => rfl
  | again _ _ ih => exact congrArg _ ih

/-- What is sent is the same at each write of a value and after the last one, unless the send has
been cancelled by then. -/
theorem Writes.keeps {updates : List Update} {result : Except WriteError Unit}
    (writes : Writes params l updates result after) :
    ∀ m ∈ l.attempts params updates.length, m.core.KeepsSend after.core := by
  have waited (m : Link) := (write_asks m params).keeps.trans (waitTxPool_asks _).keeps
  induction writes with
  | exhausted => exact List.forall_mem_nil _
  | ended => exact List.forall_mem_singleton.mpr (write_asks _ params).keeps
  | stranded => exact List.forall_mem_singleton.mpr (waited _)
  | again _ rest ih => exact List.forall_mem_cons.mpr ⟨(waited _).trans rest.asks.keeps, ih⟩

/-- The rounds of a send one after the other with its result; `steps` bounds how many there can
be. -/
inductive Rounds (data : List UInt8) :
    Nat → Link → List Round → Except SendError Unit → Link → Prop
  | exhausted (l : Link) : Rounds data 0 l [] (.ok ()) l
  | done {steps : Nat} {l : Link} {endpoint : Endpoint .legacy}
      (last : (l.core.endpoint.nextChunk data).1 = none) :
      Rounds data (steps + 1) l [] (.ok ()) (l.withEndpoint endpoint)
  | cancelled {steps : Nat} {l : Link} {endpoint : Endpoint .legacy}
      (left : (l.core.endpoint.nextChunk data).1 ≠ none) :
      Rounds data (steps + 1) l [] (.error .aborted) (l.withEndpoint endpoint)
  | failed {steps : Nat} {l : Link} {r : Round} {error : WriteError}
      (begun : l.round? data = some r) (failed : r.outcome = .error error) :
      Rounds data (steps + 1) l [r] (.error (.link error)) r.ended
  | sent {steps : Nat} {l after : Link} {r : Round} {rounds : List Round}
      {result : Except SendError Unit} (begun : l.round? data = some r)
      (taken : r.outcome = .ok ()) (rest : Rounds data steps r.ended rounds result after) :
      Rounds data (steps + 1) l (r :: rounds) result after

theorem sendChunks_rounds (data : List UInt8) (steps : Nat) (l : Link) :
    Rounds data steps l (chunkRounds data steps l) (sendChunks data steps l).1
      (sendChunks data steps l).2 := by
  induction steps generalizing l with
  | zero => exact .exhausted l
  | succ steps ih =>
    cases begun : l.round? data with
    | none =>
      simp only [chunkRounds, begun]
      obtain ⟨-, endpoint, ⟨last, sent⟩ | ⟨left, sent⟩⟩ := sendChunks_none begun steps <;> rw [sent]
      · exact .done last
      · exact .cancelled left
    | some r =>
      rw [sendChunks_some begun]
      simp only [chunkRounds, begun]
      cases outcome : r.outcome with
      | error error => exact .failed begun outcome
      | ok => exact .sent begun outcome (ih r.ended)

theorem chunkUpdates_rounds (data : List UInt8) (steps : Nat) (l : Link) :
    chunkUpdates data steps l =
      (chunkRounds data steps l).flatMap fun r => r.tries ++ r.replies := by
  induction steps generalizing l with
  | zero => rfl
  | succ steps ih =>
    cases begun : l.round? data with
    | none =>
      simp only [chunkRounds, begun]
      exact (sendChunks_none begun steps).1
    | some r =>
      rw [chunkUpdates_some begun]
      simp only [chunkRounds, begun]
      cases outcome : r.outcome with
      | error error =>
        simp only [List.append_nil, List.flatMap_singleton]
      | ok =>
        rw [List.flatMap_cons, List.append_assoc]
        exact congrArg _ (congrArg _ (ih r.ended))

/-- Each round begins where the one before it has ended, and after the last one the link is this.
In between the endpoint only cuts off the next chunk, if any. -/
def Consecutive : Link → List Round → Link → Prop
  | l, [], after => after = l.withEndpoint after.core.endpoint
  | l, r :: rest, after =>
    r.start = l.withEndpoint r.start.core.endpoint ∧ Consecutive r.ended rest after

theorem Rounds.consecutive {steps : Nat} {rounds : List Round} {result : Except SendError Unit}
    (sends : Rounds data steps l rounds result after) : Consecutive l rounds after := by
  have start {l : Link} {r : Round} (begun : l.round? data = some r) :
      r.start = l.withEndpoint r.start.core.endpoint := by
    obtain ⟨_, entered, -, -, start⟩ := round?_eq_some begun
    rw [start]
    rfl
  induction sends with
  | exhausted | done | cancelled => rfl
  | failed begun => exact ⟨start begun, rfl⟩
  | sent begun _ _ ih => exact ⟨start begun, ih⟩

end Link

/-- The send has its lock when the round begins, and if it loses it, then for good. The chunk is
written until it is taken or fails, always with the same bytes, and nothing else is; no part of a
message is among what follows. -/
structure Round.Sealed (r : Round) : Prop where
  held : r.start.core.endpoint.isSending = true
  lost : ∀ m ∈ r.moments, m.core.endpoint.isSending = false →
    r.ended.core.endpoint.isSending = false
  tries : r.tries = r.writes.map fun m => ⟨r.params, (m.write r.params).1⟩
  message : ∀ u ∈ r.tries, u.value = r.chunk ∧ u.isMessage = true
  repeats : Link.Repeats r.frame r.start r.sent
  control : ∀ u ∈ r.replies, u.isMessage = false

namespace Link

variable {l after : Link} {data : List UInt8} {r : Round}

theorem round?_sealed (controls : l.core.Controls) (begun : l.round? data = some r) :
    r.Sealed ∧ r.ended.core.Controls := by
  have held := (round?_held begun).2
  have writes := r.start.notify_writes r.chunk
  obtain ⟨cut, entered, next, entry, start⟩ := round?_eq_some begun
  obtain ⟨logs, quiet, -⟩ := transmitted_logs controls next entry
  have unwound : r.unwound = l.transmitted entered r.chunk := by
    rw [Round.unwound, Round.sent, start]
    rfl
  rw [← unwound] at logs quiet
  have keeps {m : Link} (keeps : m.core.KeepsSend r.sent.core)
      (free : m.core.endpoint.isSending = false) : r.ended.core.endpoint.isSending = false :=
    Bool.eq_false_iff.mpr fun sending =>
      Bool.eq_false_iff.mp free (keeps.endpoint.unbegun (quiet.keeps.endpoint.unbegun sending))
  have lost : ∀ m ∈ r.moments, m.core.endpoint.isSending = false →
      r.ended.core.endpoint.isSending = false :=
    List.forall_mem_append.mpr ⟨fun m written => keeps (writes.keeps m written),
      List.forall_mem_cons.mpr ⟨keeps (.of_eq rfl rfl), List.forall_mem_singleton.mpr id⟩⟩
  refine ⟨⟨held, lost, writes.tries, fun u tried => ?_, writes.repeats, quiet.control⟩,
    quiet.keeps.controls (logs.controls controls)⟩
  obtain ⟨tag, whole⟩ := Endpoint.nextChunk_message next
  have value : u.value = r.chunk := congrArg (List.drop 6) (writes.params u tried)
  refine ⟨value, ?_⟩
  rw [Update.isMessage, value, tag]
  exact decide_eq_true whole

theorem Rounds.sealed {steps : Nat} {rounds : List Round} {result : Except SendError Unit}
    (sends : Rounds data steps l rounds result after) (controls : l.core.Controls) :
    ∀ r ∈ rounds, r.Sealed := by
  induction sends with
  | exhausted | done | cancelled => exact List.forall_mem_nil _
  | failed begun => exact List.forall_mem_singleton.mpr (round?_sealed controls begun).1
  | sent begun _ _ ih =>
    obtain ⟨first, after⟩ := round?_sealed controls begun
    exact List.forall_mem_cons.mpr ⟨first, ih after⟩

end Link

end CardLink.Legacy
