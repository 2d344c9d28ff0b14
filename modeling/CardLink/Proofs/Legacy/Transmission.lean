import CardLink.Proofs.Framing.Chunks
import CardLink.Proofs.Legacy.Replies

namespace CardLink

namespace Endpoint

variable {kind : LinkKind}

theorem enterTransmit_fields (e : Endpoint kind) :
    e.enterTransmit.2.layout = e.layout ∧ e.enterTransmit.2.send = e.send ∧
      e.enterTransmit.2.held = e.held := by
  unfold enterTransmit
  split <;> exact ⟨rfl, rfl, rfl⟩

end Endpoint

namespace Legacy

/-- The parts of messages that the controller has taken, in the order in which they were written. -/
def delivered (updates : List Update) : List (List UInt8) :=
  (updates.filter fun u => u.isMessage && u.accepted).map Update.value

/-- Wherever a part of a message is refused, the very next frame writes the same bytes again. -/
def Rewritten (updates : List Update) : Prop :=
  ∀ earlier u later, updates = earlier ++ u :: later → u.isMessage = true → u.refused = true →
    ∃ frame again, u.written = [frame] ∧ later.head? = some again ∧ again.written = [frame]

/-- The controller has taken these chunks, and nothing else that is a part of a message. -/
structure Delivers (updates : List Update) (chunks : List (List UInt8)) : Prop where
  delivered : delivered updates = chunks
  rewritten : Rewritten updates

theorem Rewritten.append {first second : List Update} (before : Rewritten first)
    (after : Rewritten second) : Rewritten (first ++ second) := by
  intro earlier u later split message refused
  rcases List.append_eq_append_iff.mp split with ⟨past, rfl, rest⟩ | ⟨past, whole, rest⟩
  · exact after past u later rest message refused
  · cases past with
    | nil => exact after [] u later rest.symm message refused
    | cons head past =>
      cases rest
      obtain ⟨frame, again, written, next, same⟩ := before earlier u past whole message refused
      refine ⟨frame, again, written, ?_, same⟩
      exact List.head?_append.trans (by rw [next, Option.some_or])

theorem Delivers.append {first second : List Update} {chunks more : List (List UInt8)}
    (before : Delivers first chunks) (after : Delivers second more) :
    Delivers (first ++ second) (chunks ++ more) where
  delivered := by
    rw [← before.delivered, ← after.delivered]
    simp only [Legacy.delivered, List.filter_append, List.map_append]
  rewritten := before.rewritten.append after.rewritten

theorem delivers_nothing {updates : List Update} (control : ∀ u ∈ updates, u.isMessage = false) :
    Delivers updates [] where
  delivered := by
    refine List.map_eq_nil_iff.mpr (List.filter_eq_nil_iff.mpr fun u member => ?_)
    rw [control u member]
    exact Bool.false_ne_true
  rewritten earlier u later split message _ := by
    have other := control u (split ▸ List.mem_append_right _ (.head _))
    rw [message] at other
    cases other

namespace Link

/-- A value that has been written in the end is taken once, and each refusal before was followed by
the next try. -/
theorem Writes.delivers {params : List UInt8} {l after : Link} {updates : List Update}
    (writes : Writes params l updates (.ok ()) after)
    (message : ∀ answer, Update.isMessage ⟨params, answer⟩ = true) :
    Delivers updates [params.drop 6] ∧
      ∃ first, updates.head? = some first ∧ first.written = [(updateRequest params).frame] := by
  generalize result : (.ok () : Except WriteError Unit) = outcome at writes
  induction writes with
  | exhausted | stranded => cases result
  | ended honest =>
    have accepted := honest result.symm
    refine ⟨⟨?_, ?_⟩, _, rfl, Update.written_of_answer (.inl accepted)⟩
    · simp only [Legacy.delivered, List.filter_cons, message, accepted, Bool.and_self, if_true]
      rfl
    · intro earlier u later split _ refused
      cases earlier with
      | nil =>
        cases split
        rw [Update.not_accepted_of_refused refused] at accepted
        cases accepted
      | cons _ earlier => simp at split
  | again refused rest ih =>
    obtain ⟨⟨delivered, rewritten⟩, again, next, same⟩ := ih result
    have written := Update.written_of_answer (.inr refused)
    refine ⟨⟨?_, ?_⟩, _, rfl, written⟩
    · rw [← delivered]
      simp only [Legacy.delivered, List.filter_cons, Update.not_accepted_of_refused refused,
        Bool.and_false, Bool.false_eq_true, if_false]
    · intro earlier u later split message refused
      cases earlier with
      | nil =>
        cases split
        exact ⟨_, again, written, next, same⟩
      | cons _ earlier =>
        cases split
        exact rewritten earlier u later rfl message refused

theorem notify_delivers {l : Link} {chunk : List UInt8} (taken : (l.notify chunk).1 = .ok ())
    (tag : Chunk.tag? .legacy chunk = some .apdu) (whole : 3 ≤ chunk.length) :
    Delivers (l.notifyUpdates chunk) [chunk] := by
  have writes := l.notify_writes chunk
  rw [taken] at writes
  refine (writes.delivers fun answer => ?_).1
  exact Bool.and_eq_true_iff.mpr ⟨beq_iff_eq.mpr tag, decide_eq_true whole⟩

/-- The chunks of a message one after the other, each followed by what has been held back or queued
while it went out; `steps` bounds how many there can be. -/
inductive Transmits (data : List UInt8) :
    Nat → Link → List Update → Except SendError Unit → Link → Prop
  | exhausted (l : Link) : Transmits data 0 l [] (.ok ()) l
  | done {steps : Nat} {l : Link} {endpoint : Endpoint .legacy}
      (last : l.core.endpoint.nextChunk data = (none, endpoint)) :
      Transmits data (steps + 1) l [] (.ok ()) (l.withEndpoint endpoint)
  | cancelled {steps : Nat} {l : Link} {chunk : List UInt8} {cut entered : Endpoint .legacy}
      {error : SendError} (next : l.core.endpoint.nextChunk data = (some chunk, cut))
      (stopped : cut.enterTransmit = (.error error, entered)) :
      Transmits data (steps + 1) l [] (.error error) (l.withEndpoint entered)
  | failed {steps : Nat} {l : Link} {chunk : List UInt8} {cut entered : Endpoint .legacy}
      (error : SendError) (next : l.core.endpoint.nextChunk data = (some chunk, cut))
      (free : cut.enterTransmit = (.ok (), entered)) :
      Transmits data (steps + 1) l ((l.withEndpoint entered).notifyUpdates chunk ++
          (l.transmitted entered chunk).replyUpdates)
        (.error error) (l.transmitted entered chunk).flushDeferred.runActions
  | sent {steps : Nat} {l after : Link} {chunk : List UInt8} {cut entered : Endpoint .legacy}
      {updates : List Update} {result : Except SendError Unit}
      (next : l.core.endpoint.nextChunk data = (some chunk, cut))
      (free : cut.enterTransmit = (.ok (), entered))
      (taken : ((l.withEndpoint entered).notify chunk).1 = .ok ())
      (rest : Transmits data steps (l.transmitted entered chunk).flushDeferred.runActions
        updates result after) :
      Transmits data (steps + 1) l ((l.withEndpoint entered).notifyUpdates chunk ++
          ((l.transmitted entered chunk).replyUpdates ++ updates)) result after

theorem sendChunks_transmits (data : List UInt8) (steps : Nat) (l : Link) :
    Transmits data steps l (chunkUpdates data steps l) (sendChunks data steps l).1
      (sendChunks data steps l).2 := by
  induction steps generalizing l with
  | zero => exact .exhausted l
  | succ steps ih =>
    simp only [chunkUpdates, sendChunks]
    cases next : l.core.endpoint.nextChunk data with
    | mk chunk cut =>
      cases chunk with
      | none => exact .done next
      | some chunk =>
        dsimp only
        cases entry : cut.enterTransmit with
        | mk admitted entered =>
          cases admitted with
          | error error => exact .cancelled next entry
          | ok =>
            have failed := @Transmits.failed data steps l chunk cut entered
            have sent := @Transmits.sent data steps l
            dsimp only
            cases notified : ((l.withEndpoint entered).notify chunk).1 with
            | error error =>
              simp only [List.append_nil]
              exact failed (.link error) next entry
            | ok =>
              exact sent next entry notified (ih _)

/-- These updates are all that the controller has got, the chunk length is the same, and no part of
a message is held back or queued. -/
structure Logs (l : Link) (updates : List Update) (after : Link) : Prop where
  layout : after.core.endpoint.layout = l.core.endpoint.layout
  controls : l.core.Controls → after.core.Controls
  logged : after.platform.updates = l.platform.updates ++ updates.flatMap Update.written

theorem Asks.logs {l after : Link} {updates : List Update} (asks : l.Asks updates after) :
    l.Logs updates after :=
  ⟨asks.keeps.endpoint.layout, asks.keeps.controls, asks.logged⟩

theorem Logs.trans {a b c : Link} {past later : List Update} (first : a.Logs past b)
    (second : b.Logs later c) : a.Logs (past ++ later) c where
  layout := second.layout.trans first.layout
  controls safe := second.controls (first.controls safe)
  logged := by
    rw [second.logged, first.logged, List.flatMap_append, List.append_assoc]

theorem withEndpoint_logs {l : Link} {endpoint : Endpoint .legacy}
    (layout : endpoint.layout = l.core.endpoint.layout)
    (held : endpoint.held = l.core.endpoint.held) : l.Logs [] (l.withEndpoint endpoint) where
  layout := layout
  controls safe := ⟨fun reply same => safe.held reply (held ▸ same), safe.queued⟩
  logged := (List.append_nil _).symm

section Transmit

variable {l : Link} {data chunk : List UInt8} {cut entered : Endpoint .legacy}

theorem entered_logs {chunk : Option (List UInt8)} {admitted : Except SendError Unit}
    (next : l.core.endpoint.nextChunk data = (chunk, cut))
    (entry : cut.enterTransmit = (admitted, entered)) : l.Logs [] (l.withEndpoint entered) := by
  have layout := l.core.endpoint.nextChunk_layout data
  have held := l.core.endpoint.nextChunk_held data
  obtain ⟨same, -, kept⟩ := cut.enterTransmit_fields
  rw [next] at layout held
  rw [entry] at same kept
  exact withEndpoint_logs (same.trans layout) (kept.trans held)

/-- A chunk that has gone out, and the replies after it, leave the rest of the message as it was
before it went out. -/
theorem transmitted_logs (controls : l.core.Controls)
    (next : l.core.endpoint.nextChunk data = (some chunk, cut))
    (free : cut.enterTransmit = (.ok (), entered)) :
    l.Logs ((l.withEndpoint entered).notifyUpdates chunk) (l.transmitted entered chunk) ∧
      (l.transmitted entered chunk).Quiet (l.transmitted entered chunk).replyUpdates
        (l.transmitted entered chunk).flushDeferred.runActions ∧
      (l.transmitted entered chunk).flushDeferred.runActions.core.endpoint.send = cut.send := by
  have notified := (l.withEndpoint entered).notify_asks chunk
  have logs : l.Logs ((l.withEndpoint entered).notifyUpdates chunk)
      (l.transmitted entered chunk) := by
    have left : Logs _ [] (l.transmitted entered chunk) := withEndpoint_logs rfl rfl
    have passed := (entered_logs next free).trans (notified.logs.trans left)
    rwa [List.append_nil] at passed
  have quiet := replies_quiet (logs.controls controls)
  refine ⟨logs, quiet, quiet.keeps.endpoint.send.trans ?_⟩
  have same := cut.enterTransmit_fields.2.1
  rw [free] at same
  exact notified.keeps.endpoint.send.trans same

theorem transmitted_layout (controls : l.core.Controls)
    (next : l.core.endpoint.nextChunk data = (some chunk, cut))
    (free : cut.enterTransmit = (.ok (), entered)) :
    (l.transmitted entered chunk).flushDeferred.runActions.core.endpoint.layout = cut.layout := by
  obtain ⟨logs, quiet, -⟩ := transmitted_logs controls next free
  have kept := l.core.endpoint.nextChunk_layout data
  rw [next] at kept
  exact (quiet.logs.layout.trans logs.layout).trans kept.symm

end Transmit

theorem Transmits.logs {data : List UInt8} {steps : Nat} {l after : Link} {updates : List Update}
    {result : Except SendError Unit} (transmits : Transmits data steps l updates result after)
    (controls : l.core.Controls) : l.Logs updates after := by
  induction transmits with
  | exhausted l => exact (Asks.refl l).logs
  | @done _ l endpoint last =>
    have layout := l.core.endpoint.nextChunk_layout data
    have held := l.core.endpoint.nextChunk_held data
    rw [last] at layout held
    exact withEndpoint_logs layout held
  | cancelled next stopped => exact entered_logs next stopped
  | failed error next free =>
    obtain ⟨logs, quiet, -⟩ := transmitted_logs controls next free
    exact logs.trans quiet.logs
  | sent next free taken rest ih =>
    obtain ⟨logs, quiet, -⟩ := transmitted_logs controls next free
    exact logs.trans (quiet.logs.trans (ih (quiet.keeps.controls (logs.controls controls))))

/-- A send that comes to its end has had every chunk taken. -/
theorem Transmits.delivers {data : List UInt8} {steps : Nat} {l after : Link}
    {updates : List Update} (transmits : Transmits data steps l updates (.ok ()) after)
    (controls : l.core.Controls) (underway : l.core.endpoint.Underway data)
    (short : data.length ≤ 65535) (enough : l.core.endpoint.chunksLeft ≤ steps) :
    Delivers updates (l.core.endpoint.left data) := by
  generalize result : (.ok () : Except SendError Unit) = outcome at transmits
  induction transmits with
  | exhausted l =>
    have inactive : ¬l.core.endpoint.send.active = true := fun active => by
      simp [Endpoint.chunksLeft, active] at enough
    rw [Endpoint.left, if_neg inactive]
    exact delivers_nothing (List.forall_mem_nil _)
  | cancelled | failed => cases result
  | @done _ l endpoint last =>
    have inactive : ¬l.core.endpoint.send.active = true := fun active => by
      obtain ⟨chunk, cut, next, -⟩ := underway.next short active
      rw [last] at next
      cases next
    rw [Endpoint.left, if_neg inactive]
    exact delivers_nothing (List.forall_mem_nil _)
  | @sent steps l after chunk cut entered updates result next free taken rest ih =>
    obtain ⟨logs, quiet, send⟩ := transmitted_logs controls next free
    obtain ⟨active, -⟩ := Endpoint.nextChunk_some next
    obtain ⟨_, _, same, going, left, tag, whole⟩ := underway.next short active
    rw [next] at same
    cases same
    have layout := transmitted_layout controls next free
    have fewer := Endpoint.chunksLeft_advanced next
    have later := ih (quiet.keeps.controls (logs.controls controls)) (going.congr layout send)
      (by rw [Endpoint.chunksLeft_congr send]; omega) result
    rw [Endpoint.left_congr layout send] at later
    rw [left]
    exact (notify_delivers taken tag whole).append ((delivers_nothing quiet.control).append later)

end Link

end Legacy

end CardLink
