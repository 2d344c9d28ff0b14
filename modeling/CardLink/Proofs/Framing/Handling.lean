import CardLink.Proofs.Framing.History

namespace CardLink

/-- An operation, or a change that the owner makes to the session of the endpoint. -/
inductive Handling (kind : LinkKind) where
  | operation (operation : Operation kind)
  | resetSession
  /-- Cancels the send, and nothing else. -/
  | cancelSend
  | setChannel (channel : UInt16)

namespace Endpoint

variable {kind : LinkKind}

def handle (e : Endpoint kind) : Handling kind → Endpoint kind
  | .operation operation => (e.operate operation).2
  | .resetSession => { e with session := e.session.reset }
  | .cancelSend => { e with session := { e.session with lock := e.session.lock.abort } }
  | .setChannel channel => { e with session := { e.session with channel := channel } }

/-- A run of handlings in any order, each with the endpoint that it met. -/
inductive Trail : Endpoint kind → List (Endpoint kind × Handling kind) → Endpoint kind → Prop
  | nil (e : Endpoint kind) : Trail e [] e
  | cons {e after : Endpoint kind} {steps : List (Endpoint kind × Handling kind)}
      (handling : Handling kind) (rest : Trail (e.handle handling) steps after) :
      Trail e ((e, handling) :: steps) after

variable {e mid after : Endpoint kind} {steps more : List (Endpoint kind × Handling kind)}

theorem Trail.operation (e : Endpoint kind) (operation : Operation kind) :
    Trail e [(e, .operation operation)] (e.operate operation).2 :=
  .cons _ (.nil _)

theorem Trail.append (first : Trail e steps mid) (second : Trail mid more after) :
    Trail e (steps ++ more) after := by
  induction first with
  | nil => exact second
  | cons handling _ ih => exact .cons handling (ih second)

/-- Some handlings lead from the one endpoint to the other. -/
def Leads (e after : Endpoint kind) : Prop := ∃ steps, Trail e steps after

theorem Leads.refl (e : Endpoint kind) : e.Leads e := ⟨[], .nil e⟩

theorem Leads.trans (first : e.Leads mid) (second : mid.Leads after) : e.Leads after := by
  obtain ⟨steps, first⟩ := first
  obtain ⟨more, second⟩ := second
  exact ⟨steps ++ more, first.append second⟩

theorem operate_leads (e : Endpoint kind) (operation : Operation kind) :
    e.Leads (e.operate operation).2 :=
  ⟨_, .operation e operation⟩

theorem flushDeferred_leads (e : Endpoint kind) (sink : Sink) :
    e.Leads (e.flushDeferred sink).1 := by
  have taken : e.Leads e.takeDeferred.2 := e.operate_leads .takeDeferred
  unfold flushDeferred
  split <;> rename_i same <;> rw [same] at taken <;> exact taken

theorem transmitChunks_leads (data : List UInt8) (steps : Nat) (e : Endpoint kind) (sink : Sink) :
    e.Leads (transmitChunks data steps e sink).2.1 := by
  induction steps generalizing e sink with
  | zero => exact .refl e
  | succ steps ih =>
    have cut : e.Leads (e.nextChunk data).2 := e.operate_leads (.nextChunk data)
    unfold transmitChunks
    split
    · rename_i next
      rwa [next] at cut
    rename_i chunk cutOff next
    rw [next] at cut
    have entered : cutOff.Leads cutOff.enterTransmit.2 := cutOff.operate_leads .enterTransmit
    split <;> rename_i enter <;> rw [enter] at entered
    · exact cut.trans entered
    rename_i inside
    have left : inside.Leads inside.leaveTransmit := inside.operate_leads .leaveTransmit
    have out := (cut.trans entered).trans
      (left.trans (inside.leaveTransmit.flushDeferred_leads (sink.transmit chunk).2))
    dsimp only
    split
    · exact out
    · exact out.trans (ih ..)

/-- A whole send is made of the operations on the way. -/
theorem sendAll_leads (e : Endpoint kind) (data : List UInt8) (sink : Sink) :
    e.Leads (e.sendAll data sink).2.1 := by
  have begun : e.Leads (e.beginSend data.length).2 := e.operate_leads (.beginSend data.length)
  unfold sendAll
  split <;> rename_i began <;> rw [began] at begun
  · exact begun
  rename_i locked
  have chunks := transmitChunks_leads data (data.length + 1) locked sink
  generalize transmitChunks data (data.length + 1) locked sink = sent at *
  obtain ⟨result, last, out⟩ := sent
  have finished : last.Leads last.finishSend := last.operate_leads .finishSend
  exact begun.trans (chunks.trans (finished.trans (last.finishSend.flushDeferred_leads out)))

end Endpoint

end CardLink
