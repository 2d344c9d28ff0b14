import CardLink.Error

namespace CardLink

/-- Where chunks go: a script of outcomes and a record of what has been offered. -/
structure Sink where
  /-- Outcomes of the next transmits; `none` is success, and so is the end of the list. -/
  outcomes : List (Option WriteError) := []
  /-- Every chunk offered so far, the latest first, also those that failed. -/
  offered : List (List UInt8) := []
  deriving DecidableEq, Repr

namespace Sink

def transmit (s : Sink) (chunk : List UInt8) : Except WriteError Unit × Sink :=
  match s.outcomes with
  | [] => (.ok (), { s with offered := chunk :: s.offered })
  | none :: rest => (.ok (), ⟨rest, chunk :: s.offered⟩)
  | some error :: rest => (.error error, ⟨rest, chunk :: s.offered⟩)

def chunks (s : Sink) : List (List UInt8) := s.offered.reverse

end Sink

end CardLink
