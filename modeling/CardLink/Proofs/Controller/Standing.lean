import CardLink.Controller.Events

namespace CardLink.Controller

/-- Where the initialisation stands, and whether advertising is about to be switched. -/
structure Standing where
  phase : Phase
  initStep : InitStep
  ready : Bool
  advRequest : Option Bool
  deriving DecidableEq, Repr

namespace Core

/-- The link without its queue and its exchange of messages with the host. -/
def surroundings (c : Core) : Core :=
  { c with
    notifications := false
    endpoint := { layout := .negotiable 0 0 }
    txData := []
    chunkInFlight := false
    awaitingWriteAck := false
    pending := none
    transferTimeout := {}
    outbox := [] }

theorem send_surroundings (c : Core) (command : Command) (params : List UInt8) :
    (c.send command params).surroundings = c.surroundings := by
  unfold send
  split
  · rfl
  · split <;> rfl

theorem switchAdvertising_surroundings (c : Core) (on : Bool) :
    (c.switchAdvertising on).surroundings = c.surroundings := by
  unfold switchAdvertising
  split <;> exact send_surroundings c _ _

theorem notify_surroundings (c : Core) (chunk : List UInt8) (ofMessage : Bool) :
    (c.notify chunk ofMessage).surroundings = c.surroundings := by
  unfold notify updateCharValue
  split <;> exact send_surroundings _ _ _

theorem queueNotify_surroundings (c : Core) (chunk : List UInt8) (ofMessage : Bool) :
    (c.queueNotify chunk ofMessage).surroundings = c.surroundings := by
  unfold queueNotify
  split
  · rfl
  · exact notify_surroundings c chunk ofMessage

theorem nextCommand_surroundings (c : Core) :
    c.nextCommand.2.surroundings = c.surroundings := by
  unfold nextCommand
  split <;> rfl

theorem sendMessage_surroundings (c : Core) (data : List UInt8) :
    (c.sendMessage data).2.surroundings = c.surroundings := by
  unfold sendMessage
  split
  · split
    · rfl
    · split
      · rfl
      · split
        · rfl
        · exact queueNotify_surroundings _ _ _
  · rfl

/-- After a message a shorter connection interval may have been asked for. -/
theorem finishMessage_surroundings (c : Core) : ∃ updated,
    c.finishMessage.surroundings = { c with connectionUpdated := updated }.surroundings := by
  simp only [finishMessage, requestInterval]
  split
  · exact ⟨c.connectionUpdated, rfl⟩
  · split
    · exact ⟨true, send_surroundings _ _ _⟩
    · exact ⟨c.connectionUpdated, rfl⟩

theorem onNotifyComplete_surroundings (c : Core) : ∃ updated,
    c.onNotifyComplete.surroundings = { c with connectionUpdated := updated }.surroundings := by
  simp only [onNotifyComplete]
  split
  · split
    · split
      · exact ⟨c.connectionUpdated, notify_surroundings _ _ _⟩
      · exact finishMessage_surroundings _
    · exact finishMessage_surroundings _
  · exact ⟨c.connectionUpdated, rfl⟩

theorem onWriteAck_surroundings (c : Core) : c.onWriteAck.surroundings = c.surroundings := by
  simp only [onWriteAck]
  split
  · split
    · exact notify_surroundings _ _ _
    · rfl
  · rfl

theorem feed_surroundings (c : Core) (chunk : List UInt8) :
    (c.feed chunk).surroundings = c.surroundings := by
  unfold feed
  obtain ⟨answer, endpoint⟩ := c.endpoint.receive chunk
  match answer with
  | .ok (.reply reply) => exact queueNotify_surroundings _ _ _
  | .ok (.channelRequest channel) => exact queueNotify_surroundings _ _ _
  | .ok .reset =>
    dsimp only
    split <;> rfl
  | .ok .needMore | .ok (.complete _) | .ok .deferred | .ok .dropped | .ok .ignored
  | .error _ => rfl

theorem onSubscription_surroundings (c : Core) (on : Bool) :
    (c.onSubscription on).surroundings = c.surroundings := by
  simp only [onSubscription]
  split
  · exact send_surroundings _ _ _
  · rfl

theorem onAttributeModified_surroundings (c : Core) (data : List UInt8) :
    (c.onAttributeModified data).surroundings = c.surroundings := by
  simp only [onAttributeModified]
  split
  · rfl
  · split
    · exact onSubscription_surroundings c _
    · split
      · exact feed_surroundings c _
      · rfl

theorem onWritePermit_surroundings (c : Core) (data : List UInt8) :
    (c.onWritePermit data).surroundings = c.surroundings := by
  simp only [onWritePermit]
  split
  · rfl
  · rw [send_surroundings]
    split
    · exact feed_surroundings _ _
    · rfl

theorem onTick_surroundings (c : Core) : c.onTick.surroundings = c.surroundings := by
  simp only [onTick]
  split <;> rfl

def standing (c : Core) : Standing where
  phase := c.phase
  initStep := c.initStep
  ready := c.ready
  advRequest := c.advRequest

theorem standing_congr {c after : Core} (same : after.surroundings = c.surroundings) :
    after.standing = c.standing :=
  (congrArg standing same :)

@[simp]
theorem send_standing (c : Core) (command : Command) (params : List UInt8) :
    (c.send command params).standing = c.standing :=
  standing_congr (send_surroundings c command params)

@[simp]
theorem switchAdvertising_standing (c : Core) (on : Bool) :
    (c.switchAdvertising on).standing = c.standing :=
  standing_congr (switchAdvertising_surroundings c on)

theorem nextCommand_standing (c : Core) : c.nextCommand.2.standing = c.standing :=
  standing_congr (nextCommand_surroundings c)

theorem sendMessage_standing (c : Core) (data : List UInt8) :
    (c.sendMessage data).2.standing = c.standing :=
  standing_congr (sendMessage_surroundings c data)

theorem respond_standing (c : Core) (answer : PairingAnswer) :
    (c.respond answer).standing = c.standing := by
  simp only [respond]
  split
  · exact send_standing _ _ _
  · exact send_standing _ _ _
  · rfl

theorem onNotifyComplete_standing (c : Core) : c.onNotifyComplete.standing = c.standing := by
  obtain ⟨_, same⟩ := c.onNotifyComplete_surroundings
  exact (standing_congr same).trans rfl

theorem onWriteAck_standing (c : Core) : c.onWriteAck.standing = c.standing :=
  standing_congr (onWriteAck_surroundings c)

/-- An LE event is about the connection alone, unless a client has connected. -/
theorem onLeMeta_cases (c : Core) (params : List UInt8) :
    (∃ connection, c.onLeMeta params = { c with connection := connection }) ∨
      ∃ position, c.onLeMeta params = c.onConnected params position := by
  unfold onLeMeta
  split
  · split
    · exact .inr ⟨12, rfl⟩
    · exact .inl ⟨c.connection, rfl⟩
  · split
    · exact .inr ⟨24, rfl⟩
    · exact .inl ⟨c.connection, rfl⟩
  · exact .inl ⟨_, rfl⟩
  · unfold onDataLength
    split
    · exact .inl ⟨_, rfl⟩
    · exact .inl ⟨c.connection, rfl⟩
  · unfold onPhyUpdate
    split
    · exact .inl ⟨_, rfl⟩
    · exact .inl ⟨c.connection, rfl⟩
  · exact .inl ⟨c.connection, rfl⟩

theorem onLeMeta_standing (c : Core) (params : List UInt8) :
    (c.onLeMeta params).standing = c.standing := by
  rcases c.onLeMeta_cases params with ⟨connection, same⟩ | ⟨position, same⟩
  all_goals
    rw [same]
    rfl

theorem onEncryptionChange_standing (c : Core) (params : List UInt8) :
    (c.onEncryptionChange params).standing = c.standing := by
  unfold onEncryptionChange
  split <;> rfl

theorem onAttributeModified_standing (c : Core) (data : List UInt8) :
    (c.onAttributeModified data).standing = c.standing :=
  standing_congr (onAttributeModified_surroundings c data)

theorem onWritePermit_standing (c : Core) (data : List UInt8) :
    (c.onWritePermit data).standing = c.standing :=
  standing_congr (onWritePermit_surroundings c data)

theorem onTick_standing (c : Core) : c.onTick.standing = c.standing :=
  standing_congr (onTick_surroundings c)

end Core

end CardLink.Controller
