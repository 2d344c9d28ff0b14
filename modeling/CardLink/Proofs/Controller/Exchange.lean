import CardLink.Proofs.Controller.Sequences
import CardLink.Proofs.Framing.Sending

namespace CardLink

/-- The value that a frame writes to a characteristic, if it is a frame that does so. -/
def Frame.updated? (frame : List UInt8) : Option (List UInt8) :=
  if Frame.opcode frame = Command.updateCharValue.opcode then some (frame.drop 10) else none

namespace Controller

structure Exchange where
  settings : Settings
  notifications : Bool
  encrypted : Bool
  endpoint : Endpoint .negotiated
  txData : List UInt8
  chunkInFlight : Bool
  awaitingWriteAck : Bool
  pending : Option PendingNotify
  transferTimeout : Countdown
  /-- The values of the queued notifications, the oldest first. -/
  notices : List (List UInt8)

/-- What no transfer changes: the settings, what the host was granted and the chunk length. -/
structure Terms where
  settings : Settings
  notifications : Bool
  encrypted : Bool
  layout : Layout .negotiated

namespace Exchange

variable (x : Exchange)

def terms : Terms where
  settings := x.settings
  notifications := x.notifications
  encrypted := x.encrypted
  layout := x.endpoint.layout

/-- The exchange whatever is queued. -/
def unqueued : Exchange := { x with notices := [] }

/-- Whether the notification that waits for a write response is a part of a message. -/
def held : Option Bool := x.pending.map PendingNotify.ofMessage

/-- Nothing is on its way any more. -/
def cleared : Exchange :=
  { x with
    endpoint := x.endpoint.reset.finishSend
    txData := []
    chunkInFlight := false
    awaitingWriteAck := false
    pending := none
    transferTimeout := {} }

def retuned (layout : Layout .negotiated) : Exchange :=
  { x with endpoint := { x.endpoint with layout := layout } }

/-- Nothing is granted either, and the chunk length may have changed. -/
def severed (layout : Layout .negotiated) : Exchange :=
  { x.cleared.retuned layout with notifications := false, encrypted := false }

theorem terms_endpoint {x : Exchange} {endpoint : Endpoint .negotiated}
    (layout : endpoint.layout = x.endpoint.layout) :
    { x with endpoint := endpoint }.terms = x.terms := by
  simp only [terms, layout]

theorem eq_of_unqueued {x after : Exchange} (same : after.unqueued = x.unqueued) :
    after = { x with notices := after.notices } := by
  cases x
  cases after
  cases same
  rfl

end Exchange

namespace Core

def notices (c : Core) : List (List UInt8) := c.outbox.filterMap Frame.updated?

def exchange (c : Core) : Exchange where
  settings := c.settings
  notifications := c.notifications
  encrypted := c.connection.encrypted
  endpoint := c.endpoint
  txData := c.txData
  chunkInFlight := c.chunkInFlight
  awaitingWriteAck := c.awaitingWriteAck
  pending := c.pending
  transferTimeout := c.transferTimeout
  notices := c.notices

theorem opcode_build {opcode : UInt16} {params frame : List UInt8}
    (built : Frame.build opcode params = .ok frame) : Frame.opcode frame = opcode := by
  unfold Frame.build at built
  split at built
  · cases built
  · cases built
    exact Word.join_split opcode

theorem updated?_build {command : Command} {params frame : List UInt8}
    (built : Frame.build command.opcode params = .ok frame) :
    Frame.updated? frame =
      if command = .updateCharValue then some (params.drop 6) else none := by
  have only : command.opcode = Command.updateCharValue.opcode ↔ command = .updateCharValue := by
    cases command <;> decide
  rw [Frame.updated?, opcode_build built]
  simp only [only]
  unfold Frame.build at built
  split at built
  · cases built
  · cases built
    rfl

/-- A command either goes to the end of the outbox or is lost. -/
theorem send_notices (c : Core) (command : Command) (params : List UInt8) :
    (c.send command params).notices = c.notices ∨ command = .updateCharValue ∧
      (c.send command params).notices = c.notices ++ [params.drop 6] := by
  unfold send
  split
  · exact .inl rfl
  · rename_i frame built
    have updated := updated?_build built
    split
    · simp only [notices, List.filterMap_append, List.filterMap_cons, List.filterMap_nil, updated]
      split <;> simp_all
    · exact .inl rfl

theorem send_unqueued (c : Core) (command : Command) (params : List UInt8) :
    (c.send command params).exchange.unqueued = c.exchange.unqueued := by
  unfold send
  split
  · rfl
  · split <;> rfl

/-- Every command but one leaves the exchange as it is. -/
theorem send_exchange (c : Core) {command : Command} (other : command ≠ .updateCharValue)
    (params : List UInt8) : (c.send command params).exchange = c.exchange := by
  rw [Exchange.eq_of_unqueued (send_unqueued c command params)]
  rcases c.send_notices command params with same | ⟨update, -⟩
  · exact congrArg (fun notices => { c.exchange with notices := notices }) same
  · exact absurd update other

theorem switchAdvertising_exchange (c : Core) (on : Bool) :
    (c.switchAdvertising on).exchange = c.exchange := by
  unfold switchAdvertising
  split <;> exact send_exchange c (by decide) _

theorem Sequenced.unqueued {c after : Core} (sequenced : c.Sequenced after) :
    after.exchange.unqueued = c.exchange.unqueued := by
  obtain ⟨f, command?, params, rfl, -⟩ := sequenced
  cases command? with
  | none => rfl
  | some command => exact send_unqueued (c.placed f) command params

theorem dispatch_exchange (c : Core) {command? : Option Command}
    (other : command? ≠ some .updateCharValue) (params : List UInt8) :
    (c.dispatch command? params).exchange = c.exchange := by
  cases command? with
  | none => rfl
  | some command => exact send_exchange c (fun same => other (congrArg some same)) params

/-- Advertising starts again without the write of the name. -/
theorem startAdvertising_exchange (c : Core) : c.startAdvertising.exchange = c.exchange := by
  have other : c.readvertisedStep.command? ≠ some .updateCharValue := by
    unfold readvertisedStep
    cases c.nameChanged <;> cases c.planeMode <;> decide
  rw [startAdvertising_eq]
  exact dispatch_exchange (c.placed (c.footing.readvertised c.planeMode)) other _

/-- A new initialisation queues the reset of the controller and nothing else. -/
theorem beginInit_exchange (c : Core) : c.beginInit.exchange =
    { c.exchange.severed (c.endpoint.layout.resetMtu c.settings.initialChunkLength) with
      notices := [] } := by
  rw [beginInit_eq, send_exchange _ (by decide)]
  rfl

end Core

end Controller

end CardLink
