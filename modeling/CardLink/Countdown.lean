import CardLink.Fault

namespace CardLink

/-- One more than the longest time that a countdown can hold. -/
def timeBound : Nat := UInt64.size

inductive Countdown.Phase where
  | idle
  | armed
  | expired
  | cancelled
  deriving DecidableEq, Repr

/-- Only platform ticks advance it. Times are microseconds. -/
structure Countdown where
  limit : Nat := 0
  elapsed : Nat := 0
  phase : Countdown.Phase := .idle
  deriving DecidableEq, Repr

namespace Countdown

def arm (_ : Countdown) (limit : Nat) : Countdown where
  limit := limit
  elapsed := 0
  phase := .armed

/-- Only an armed countdown moves; it expires once and stays expired until armed again. -/
def tick (c : Countdown) (step : Nat) : Countdown :=
  if c.phase = .armed then
    { c with
      elapsed := c.elapsed + step
      phase := if c.limit ≤ c.elapsed + step then .expired else .armed }
  else c

/-- Refuses a step after which the elapsed time no longer fits its word. -/
def tick? (c : Countdown) (step : Nat) : Except Fault Countdown :=
  if c.phase = .armed ∧ timeBound ≤ c.elapsed + step then .error .timeOverflow
  else .ok (c.tick step)

def cancel (c : Countdown) : Countdown :=
  if c.phase = .armed then { c with phase := .cancelled } else c

def clear (_ : Countdown) : Countdown := {}

def isArmed (c : Countdown) : Bool := c.phase == .armed

def remaining (c : Countdown) : Nat :=
  if c.isArmed then c.limit - c.elapsed else 0

/-- Milliseconds in microseconds, refused where the product does not fit its word. -/
def ofMilliseconds? (milliseconds : Nat) : Except Fault Nat :=
  if timeBound ≤ milliseconds * 1000 then .error .timeOverflow else .ok (milliseconds * 1000)

end Countdown

end CardLink
