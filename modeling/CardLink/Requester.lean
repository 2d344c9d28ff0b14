import CardLink.Countdown
import CardLink.Packet.Pool
import CardLink.Platform

namespace CardLink

inductive ReplyKind where
  | commandComplete
  | commandStatus
  | leMeta (subevent : UInt8)
  deriving DecidableEq, Repr

structure Request where
  opcode : UInt16
  params : List UInt8 := []
  expect : ReplyKind := .commandComplete
  /-- How many bytes of the reply the caller takes. -/
  room : Nat
  /-- Microseconds allowed. -/
  limit : Nat
  deriving DecidableEq, Repr

structure Listener (σ : Type) where
  packet : EventPacket → σ → σ
  tick : σ → σ := id
  /-- Events that are neither packets nor ticks. -/
  unrouted : PlatformEvent → σ → σ := fun _ s => s

/-- One command at a time: a command is written, and events are taken from the platform until its
reply arrives, the controller reports a failure, or the time is up. Every other event goes to a
listener in the step in which it was taken. -/
structure Requester where
  pool : SlotPool := .ofSize SlotPool.standardSize
  busy : Bool := false
  clock : Countdown := {}
  /-- Microseconds between two platform ticks. -/
  tick : Nat
  deriving DecidableEq, Repr

/-- A packet on the reply queue ends the wait with bytes or a failure, or does not end it. -/
inductive Verdict where
  | done (reply : List UInt8)
  | failed (error : CommandError)
  | keepWaiting
  deriving DecidableEq, Repr

namespace Request

/-- The packet goes to the reply queue. -/
def isReply (request : Request) (packet : EventPacket) : Bool :=
  match packet.kind with
  | .commandComplete | .commandStatus => packet.opcode == some request.opcode
  | .leMeta subevent => request.expect == .leMeta subevent
  | .hardwareError => true
  | .asynchronous => false

/-- A status with a free command slot answers a request for completion: no completion follows. -/
def judge (request : Request) (packet : EventPacket) : Verdict :=
  match packet.kind with
  | .commandStatus =>
    let status := packet.status.getD 0
    if request.expect = .commandStatus then .done (packet.params.take request.room)
    else if status ≠ 0 then .failed (.controller status)
    else if request.expect = .commandComplete ∧ packet.credits.getD 0 ≠ 0 then
      .done ([status].take request.room)
    else .keepWaiting
  | .commandComplete | .leMeta _ => .done (packet.returnParams.take request.room)
  | .hardwareError => .failed (.hardware (packet.params.head?.getD 0))
  | .asynchronous => .keepWaiting

end Request

/-- The end of a wait: the answer, the events not taken, and the states left behind. -/
structure Waited (σ : Type) where
  answer : Except CommandError (List UInt8)
  rest : List PlatformEvent
  requester : Requester
  state : σ

namespace Requester

variable {σ : Type}

/-- Hands queued unsolicited packets to the listener, the oldest first. -/
def drainList (listener : Listener σ) : List Nat → SlotPool → σ → SlotPool × σ
  | [], pool, s => (pool, s)
  | slot :: rest, pool, s =>
    let s := listener.packet (pool.packet slot) s
    drainList listener rest ({ pool with pending := rest }.release slot) s

def drain (listener : Listener σ) (pool : SlotPool) (s : σ) : SlotPool × σ :=
  drainList listener pool.pending pool s

/-- Takes in a packet that arrived outside any request. -/
def deliver (r : Requester) (listener : Listener σ) (raw : List UInt8) (s : σ) :
    Except CommandError Unit × Requester × σ :=
  match r.pool.intake raw with
  | (.error error, pool) => (.error error, { r with pool := pool }, s)
  | (.ok slot, pool) =>
    match pool.enqueue .pending slot with
    | .error error => (.error error, { r with pool := pool.release slot }, s)
    | .ok pool =>
      let (pool, s) := drain listener pool s
      (.ok (), { r with pool := pool }, s)

/-- Queues a packet that has been taken in and hands what is unsolicited to the listener; then
the reply queue is judged. -/
def route (r : Requester) (listener : Listener σ) (request : Request) (slot : Nat) (s : σ) :
    Verdict × Requester × σ :=
  let queue := if request.isReply (r.pool.packet slot) then .reply else .pending
  let pool :=
    match r.pool.enqueue queue slot with
    | .ok pool => pool
    | .error _ => r.pool.release slot
  let (pool, s) := drain listener pool s
  match pool.dequeue .reply with
  | (none, pool) => (.keepWaiting, { r with pool := pool }, s)
  | (some slot, pool) =>
    let packet := pool.packet slot
    let freed := packet.kind = .commandStatus ∧ packet.credits.getD 0 ≠ 0
    (request.judge packet,
      { r with pool := pool.release slot, busy := r.busy && !decide freed }, s)

/-- Takes events until the request is decided. Packets that are refused are lost. -/
def wait (listener : Listener σ) (request : Request) :
    List PlatformEvent → Requester → σ → Waited σ
  | [], r, s => ⟨.error .timeout, [], r, s⟩
  | .tick :: rest, r, s =>
    let s := listener.tick s
    let r := { r with clock := r.clock.tick r.tick }
    if r.clock.phase = .expired then ⟨.error .timeout, rest, r, s⟩
    else wait listener request rest r s
  | .hci raw :: rest, r, s =>
    match r.pool.intake raw with
    | (.error _, pool) => wait listener request rest { r with pool := pool } s
    | (.ok slot, pool) =>
      match route { r with pool := pool } listener request slot s with
      | (.done reply, r, s) => ⟨.ok reply, rest, r, s⟩
      | (.failed error, r, s) => ⟨.error error, rest, r, s⟩
      | (.keepWaiting, r, s) => wait listener request rest r s
  | event :: rest, r, s => wait listener request rest r (listener.unrouted event s)

def issue (r : Requester) (request : Request) (p : Platform) :
    Except CommandError Requester × Platform :=
  if r.busy then (.error .busy, p)
  else
    match Frame.build request.opcode request.params with
    | .error error => (.error error, p)
    | .ok frame =>
      match p.send frame with
      | (.error error, p) => (.error (.link error), p)
      | (.ok (), p) => (.ok { r with busy := true, clock := r.clock.arm request.limit }, p)

/-- The bytes that the reply gave the caller. Nothing is waited for when the command could not
be written. -/
def ask (r : Requester) (listener : Listener σ) (request : Request) (p : Platform) (s : σ) :
    Except CommandError (List UInt8) × Requester × Platform × σ :=
  match r.issue request p with
  | (.error error, p) => (.error error, r, p, s)
  | (.ok r, p) =>
    let w := wait listener request p.queue r s
    (w.answer, { w.requester with busy := false, clock := w.requester.clock.clear },
      { p with queue := w.rest }, w.state)

/-- Refuses a request whose clock passes the longest time that its word can hold. A clock that
does so reaches its limit in the same tick, so it is enough to look at the end of the wait. -/
def ask? (r : Requester) (listener : Listener σ) (request : Request) (p : Platform) (s : σ) :
    Except Fault (Except CommandError (List UInt8) × Requester × Platform × σ) :=
  let overflows :=
    match r.issue request p with
    | (.error _, _) => false
    | (.ok r, p) =>
      decide (timeBound ≤ (wait listener request p.queue r s).requester.clock.elapsed)
  if overflows then .error .timeOverflow else .ok (r.ask listener request p s)

end Requester

end CardLink
