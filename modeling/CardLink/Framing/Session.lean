import CardLink.Error
import CardLink.Fault

namespace CardLink

/-- Send ownership, and how many transmits are on the stack. -/
structure SendLock where
  sending : Bool := false
  depth : Nat := 0
  deriving DecidableEq, Repr

namespace SendLock

def acquire (lock : SendLock) : Except SendError SendLock :=
  if lock.sending then .error .busy else .ok { lock with sending := true }

def release (_ : SendLock) : SendLock := {}

/-- Enters a transmit, unless the send has been cancelled. The depth is a byte that saturates. -/
def enter (lock : SendLock) : Except SendError SendLock :=
  if lock.sending then .ok { lock with depth := min 255 (lock.depth + 1) } else .error .aborted

def leave (lock : SendLock) : SendLock := { lock with depth := lock.depth - 1 }

/-- Cancels the send; a transmit on the stack stays entered until it unwinds. -/
def abort (lock : SendLock) : SendLock := { lock with sending := false }

def inTransmit (lock : SendLock) : Bool := decide (0 < lock.depth)

end SendLock

/-- Sequence numbers are words and wrap. -/
def nextSequence (sequence : Nat) : Nat := (sequence + 1) % 65536

structure Session where
  /-- The next sequence accepted, zero between receptions. -/
  expected : Nat := 0
  remaining : Nat := 0
  total : Nat := 0
  cursor : Nat := 0
  channel : UInt16 := 0
  lock : SendLock := {}
  deriving DecidableEq, Repr

namespace Session

def start (s : Session) (total : Nat) (channel : UInt16) : Session :=
  { s with expected := 0, remaining := total, total := total, cursor := 0, channel := channel }

/-- Records copied bytes and moves to the next sequence, or to zero once nothing is left. -/
def advance (s : Session) (count : Nat) : Session :=
  { s with
    cursor := s.cursor + count
    remaining := s.remaining - count
    expected := if s.remaining - count = 0 then 0 else nextSequence s.expected }

/-- Refuses to record more bytes than are still to come. -/
def advance? (s : Session) (count : Nat) : Except Fault Session :=
  if s.remaining < count then .error .pastReception else .ok (s.advance count)

/-- Drops a partial reception; the channel and the send are untouched. -/
def resetReception (s : Session) : Session :=
  { s with expected := 0, remaining := 0, total := 0, cursor := 0 }

def reset (s : Session) : Session :=
  { s.resetReception with channel := 0, lock := s.lock.abort }

def isIdle (s : Session) : Bool := s.expected == 0 && s.remaining == 0

end Session

structure SendProgress where
  offset : Nat := 0
  length : Nat := 0
  sequence : Nat := 0
  active : Bool := false
  deriving DecidableEq, Repr

namespace SendProgress

def start (length : Nat) : SendProgress where
  length := length
  active := true

def remaining (c : SendProgress) : Nat := c.length - c.offset

def remaining? (c : SendProgress) : Except Fault Nat :=
  if c.length < c.offset then .error .pastMessage else .ok c.remaining

end SendProgress

end CardLink
