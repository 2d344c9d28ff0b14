import CardLink.Fault
import CardLink.Packet.Event

namespace CardLink

/-- A fixed number of packet slots. A slot is free, holds the one queued reply, stands in the queue
of unsolicited packets, or is held by the caller. -/
structure SlotPool where
  slots : List EventPacket
  /-- Free slots, the next one to be taken first. -/
  free : List Nat
  reply : Option Nat := none
  /-- Unsolicited packets, the oldest first. -/
  pending : List Nat := []
  deriving DecidableEq, Repr

inductive SlotPool.Queue where
  | reply
  | pending
  deriving DecidableEq, Repr

namespace SlotPool

def standardSize : Nat := 8

def ofSize (size : Nat) : SlotPool where
  slots := List.replicate size .empty
  free := List.range size

def capacity (p : SlotPool) : Nat := p.slots.length

def takeFree (p : SlotPool) : Option Nat × SlotPool :=
  match p.free with
  | [] => (none, p)
  | slot :: rest => (some slot, { p with free := rest })

/-- Frees a slot and forgets its packet. A slot that is free already, or that the pool does not
have, is left alone. -/
def release (p : SlotPool) (slot : Nat) : SlotPool :=
  if p.capacity ≤ slot ∨ slot ∈ p.free then p
  else { p with slots := p.slots.set slot .empty, free := p.free ++ [slot] }

/-- Stores a raw packet in a free slot; the slot is the caller's. -/
def intake (p : SlotPool) (raw : List UInt8) : Except CommandError Nat × SlotPool :=
  match p.takeFree with
  | (none, p) => (.error .poolExhausted, p)
  | (some slot, p) =>
    match EventPacket.parse raw with
    | .ok packet => (.ok slot, { p with slots := p.slots.set slot packet })
    | .error error => (.error error, p.release slot)

def packet (p : SlotPool) (slot : Nat) : EventPacket := p.slots[slot]?.getD .empty

def packet? (p : SlotPool) (slot : Nat) : Except Fault EventPacket :=
  if p.capacity ≤ slot then .error .noSuchSlot else .ok (p.packet slot)

/-- Queues a slot; one that is refused stays with the caller. -/
def enqueue (p : SlotPool) (queue : Queue) (slot : Nat) : Except CommandError SlotPool :=
  match queue with
  | .reply => if p.reply.isSome then .error .busy else .ok { p with reply := some slot }
  | .pending =>
    if p.capacity ≤ p.pending.length then .error .poolExhausted
    else .ok { p with pending := p.pending ++ [slot] }

def dequeue (p : SlotPool) (queue : Queue) : Option Nat × SlotPool :=
  match queue with
  | .reply => (p.reply, { p with reply := none })
  | .pending =>
    match p.pending with
    | [] => (none, p)
    | slot :: rest => (some slot, { p with pending := rest })

end SlotPool

end CardLink
