import CardLink.Error
import CardLink.Packet.Code
import CardLink.Word

namespace CardLink

inductive EventKind where
  | commandComplete
  | commandStatus
  | leMeta (subevent : UInt8)
  | hardwareError
  | asynchronous
  deriving DecidableEq, Repr

/-- A packet with its type byte, or nothing at all. -/
structure EventPacket where
  bytes : List UInt8 := []
  deriving DecidableEq, Repr

namespace EventPacket

def packetType : UInt8 := 0x04

/-- Type byte, event code and parameter length. -/
def headerLength : Nat := 3

/-- The longest packet: the header and 255 parameters. -/
def maxLength : Nat := headerLength + 255

def empty : EventPacket := {}

/-- The type must be that of an event and the length the number of bytes that follow it. -/
def parse (raw : List UInt8) : Except CommandError EventPacket :=
  match raw with
  | type :: _ :: length :: params =>
    if type = packetType ∧ length.toNat = params.length then .ok ⟨raw⟩ else .error .malformed
  | _ => .error .malformed

def isEmpty (p : EventPacket) : Bool := p.bytes.isEmpty

/-- The event code, zero of an empty packet. -/
def code (p : EventPacket) : UInt8 := p.bytes[1]?.getD 0

def params (p : EventPacket) : List UInt8 := p.bytes.drop headerLength

def kind (p : EventPacket) : EventKind :=
  if p.code = EventCode.commandComplete then .commandComplete
  else if p.code = EventCode.commandStatus then .commandStatus
  else if p.code = EventCode.hardwareError then .hardwareError
  else if p.code = EventCode.leMeta then .leMeta (p.params.head?.getD 0)
  else .asynchronous

/-- The opcode that a command-complete or command-status event answers. -/
def opcode (p : EventPacket) : Option UInt16 :=
  match p.kind with
  | .commandComplete => Word.littleAt? p.params 1
  | .commandStatus => Word.littleAt? p.params 2
  | _ => none

/-- How many more commands the controller takes. -/
def credits (p : EventPacket) : Option UInt8 :=
  match p.kind with
  | .commandComplete => p.params.head?
  | .commandStatus => p.params[1]?
  | _ => none

/-- The bytes for the caller whose request the event answers. -/
def returnParams (p : EventPacket) : List UInt8 :=
  match p.kind with
  | .commandComplete => p.params.drop 3
  | .leMeta _ => p.params.drop 1
  | _ => p.params

/-- The status of a command-status event, or the first return parameter of a command-complete. -/
def status (p : EventPacket) : Option UInt8 :=
  match p.kind with
  | .commandStatus => p.params.head?
  | .commandComplete => p.returnParams.head?
  | _ => none

def vendorCode (p : EventPacket) : Option UInt16 :=
  if p.code = EventCode.vendor then Word.littleAt? p.params 0 else none

def vendorData (p : EventPacket) : List UInt8 := p.params.drop 2

end EventPacket

end CardLink
