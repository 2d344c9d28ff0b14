import CardLink.Proofs.Requester.Reading

namespace CardLink.Request

/-- How an event that comes after this many ticks answers the request, if it does. -/
def decision (request : Request) (period ticks : Nat) :
    PlatformEvent → Option (Except CommandError (List UInt8))
  | .hci raw =>
    match request.read raw with
    | .decided answer => some answer
    | _ => none
  | .tick => if request.limit ≤ (ticks + 1) * period then some (.error .timeout) else none
  | .usb _ | .other => none

/-- Everything but the packets about the request and what is no packet at all. -/
def observe {σ : Type} (request : Request) (listener : Listener σ) (s : σ) : PlatformEvent → σ
  | .hci raw =>
    match request.read raw with
    | .unsolicited => listener.packet ⟨raw⟩ s
    | _ => s
  | .tick => listener.tick s
  | event => listener.unrouted event s

/-- None of the events, which come after this many ticks, answers the request. -/
def Undecided (request : Request) (period ticks : Nat) (events : List PlatformEvent) : Prop :=
  ∀ earlier event later, events = earlier ++ event :: later →
    request.decision period (ticks + earlier.count .tick) event = none

/-- The first event that decides answers the request, and the events behind it are left. When
none decides, the request takes all of them and times out. -/
inductive Decided (request : Request) (period ticks : Nat) : List PlatformEvent →
    Except CommandError (List UInt8) → List PlatformEvent → List PlatformEvent → Prop
  | first {before rest : List PlatformEvent} {event : PlatformEvent}
      {answer : Except CommandError (List UInt8)}
      (undecided : request.Undecided period ticks before)
      (decides : request.decision period (ticks + before.count .tick) event = some answer) :
      Decided request period ticks (before ++ event :: rest) answer (before ++ [event]) rest
  | drained {events : List PlatformEvent} (undecided : request.Undecided period ticks events) :
      Decided request period ticks events (.error .timeout) events []

variable {request : Request} {period ticks : Nat}

theorem ticks_cons (event : PlatformEvent) (events : List PlatformEvent) :
    (event :: events).count .tick = [event].count .tick + events.count .tick := by
  simp only [List.count_cons, List.count_nil]
  omega

theorem undecided_nil : request.Undecided period ticks [] := by
  intro earlier event later split
  cases earlier <;> cases split

theorem Undecided.cons {event : PlatformEvent} {events : List PlatformEvent}
    (passed : request.decision period ticks event = none)
    (undecided : request.Undecided period (ticks + [event].count .tick) events) :
    request.Undecided period ticks (event :: events) := by
  intro earlier next later split
  cases earlier with
  | nil =>
    cases split
    exact passed
  | cons first earlier =>
    cases split
    rw [ticks_cons, ← Nat.add_assoc]
    exact undecided earlier next later rfl

theorem Decided.pass {event : PlatformEvent} {events taken rest : List PlatformEvent}
    {answer : Except CommandError (List UInt8)}
    (passed : request.decision period ticks event = none)
    (decided : request.Decided period (ticks + [event].count .tick) events answer taken rest) :
    request.Decided period ticks (event :: events) answer (event :: taken) rest := by
  cases decided with
  | @first before _ last _ undecided decides =>
    rw [Nat.add_assoc, ← ticks_cons] at decides
    rw [← List.cons_append, ← List.cons_append]
    exact .first (undecided.cons passed) decides
  | drained undecided => exact .drained (undecided.cons passed)

end CardLink.Request
