namespace CardLink

/-- Uses that the arithmetic of the links does not allow. A function whose name ends in a question
mark refuses them; beside it stands the total function that it guards. -/
inductive Fault where
  /-- An initial ATT MTU below the three bytes of its own header. -/
  | mtuBelowHeader
  /-- A largest chunk below the six bytes that a first chunk needs. -/
  | ceilingBelowFirstChunk
  /-- More bytes recorded than the reception still expects. -/
  | pastReception
  /-- A send position beyond the end of the message. -/
  | pastMessage
  /-- A time that does not fit 64 bits of microseconds. -/
  | timeOverflow
  /-- A packet slot outside the pool. -/
  | noSuchSlot
  deriving DecidableEq, Repr

end CardLink
