import CardLink.Framing.Layout
import CardLink.Framing.Sink
import CardLink.Word

namespace CardLink

inductive Received where
  | needMore
  | complete (length : Nat)
  /-- A control reply to transmit now. -/
  | reply (chunk : List UInt8)
  | deferred
  /-- The host asks for a channel; the owner of the endpoint answers. -/
  | channelRequest (channel : UInt16)
  | reset
  /-- A message chunk was passed over because a send is in progress. -/
  | dropped
  | ignored
  deriving DecidableEq, Repr

/-- One end of a chunked link. A refused chunk drops the reception and cancels the send; a control
reply that is produced while a transmit is on the stack is held until the transmit unwinds. -/
structure Endpoint (kind : LinkKind) where
  layout : Layout kind
  session : Session := {}
  /-- Received bytes; a later reception writes over them from the start. -/
  buffer : List UInt8 := List.replicate messageCapacity 0
  messageLength : Nat := 0
  /-- The message received last has not been handed over yet. -/
  ready : Bool := false
  send : SendProgress := {}
  /-- A reply held until no transmit is on the stack. -/
  held : Option (List UInt8) := none
  deriving DecidableEq, Repr

def overwrite (bytes : List UInt8) (position : Nat) (part : List UInt8) : List UInt8 :=
  bytes.take position ++ part ++ bytes.drop (position + part.length)

namespace Endpoint

variable {kind : LinkKind}

def chunkLength (e : Endpoint kind) : Nat := e.layout.chunkLength

def isSending (e : Endpoint kind) : Bool := e.session.lock.sending

/-- Drops the reception and any held reply, and cancels the send. -/
def reset (e : Endpoint kind) : Endpoint kind :=
  { e with session := e.session.reset, ready := false, held := none }

def message (e : Endpoint kind) : List UInt8 := e.buffer.take e.messageLength

/-- The length of a message that has not been handed over, once. -/
def takeComplete (e : Endpoint kind) : Option Nat × Endpoint kind :=
  if e.ready then (some e.messageLength, { e with ready := false }) else (none, e)

/-- The channel, where the kind of link has one, and the tag. -/
def controlHeader (_ : Endpoint kind) (channel : UInt16) (tag : UInt8) : List UInt8 :=
  if kind.channelWidth = 2 then Word.big channel ++ [tag] else [tag]

def pad (e : Endpoint kind) (chunk : List UInt8) : List UInt8 :=
  if kind.padded then chunk ++ List.replicate (e.chunkLength - chunk.length) 0 else chunk

def errorReply (e : Endpoint kind) (error : ChunkError) : Option (List UInt8) :=
  e.layout.errorReply error

/-- Gives the reply back if it can go out now, and holds it while a transmit is on the stack. -/
def queueReply (e : Endpoint kind) (reply : List UInt8) : Option (List UInt8) × Endpoint kind :=
  if e.session.lock.inTransmit then (none, { e with held := some (e.pad reply) })
  else (some (e.pad reply), e)

/-- The held reply, once no transmit is on the stack. -/
def takeDeferred (e : Endpoint kind) : Option (List UInt8) × Endpoint kind :=
  if e.session.lock.inTransmit then (none, e) else (e.held, { e with held := none })

def answer (e : Endpoint kind) (reply : List UInt8) : Received × Endpoint kind :=
  match e.queueReply reply with
  | (some chunk, e) => (.reply chunk, e)
  | (none, e) => (.deferred, e)

def echo (e : Endpoint kind) (chunk : List UInt8) : List UInt8 := chunk.take e.chunkLength

/-- The channel of a received chunk, zero where the kind of link has none. -/
def channelOf (kind : LinkKind) (chunk : List UInt8) : UInt16 :=
  if kind.channelWidth = 2 then
    match chunk with
    | high :: low :: _ => Word.join high low
    | _ => 0
  else 0

/-- On a link that is strict about it, a control chunk must carry sequence zero. -/
def checkControl (kind : LinkKind) (body : List UInt8) : Except ChunkError Unit :=
  if kind.strictSequence then
    match body with
    | tag :: high :: low :: _ =>
      if high = 0 ∧ low = 0 then .ok () else .error (.unexpectedSequence tag)
    | _ => .error (.tooShort body.length)
  else .ok ()

/-- Stores as much of the payload as the reception still expects. -/
def store (e : Endpoint kind) (payload : List UInt8) : Received × Endpoint kind :=
  let part := payload.take e.session.remaining
  let session := e.session.advance part.length
  let e := { e with buffer := overwrite e.buffer e.session.cursor part, session := session }
  if session.remaining = 0 then
    (.complete session.total, { e with messageLength := session.total, ready := true })
  else (.needMore, e)

/-- A message chunk: tag, sequence, the total length in the first one, payload. -/
def receiveMessage (e : Endpoint kind) (channel : UInt16) (body : List UInt8) :
    Except ChunkError (Received × Endpoint kind) :=
  match body with
  | _ :: high :: low :: rest =>
    let sequence := (Word.join high low).toNat
    if sequence ≠ e.session.expected then
      .error (.sequenceMismatch e.session.expected sequence)
    else if sequence = 0 then
      match rest with
      | high :: low :: payload =>
        let total := (Word.join high low).toNat
        if messageCapacity < total then .error (.overflow total messageCapacity)
        else if 0 < total ∧ payload = [] then .error (.tooShort body.length)
        else
          let e := { e with session := e.session.start total channel, ready := false }
          .ok (e.store payload)
      | _ => .error (.tooShort body.length)
    else if 0 < kind.channelWidth ∧ channel ≠ e.session.channel then
      .error (.channelMismatch e.session.channel channel)
    else if rest = [] then .error (.tooShort body.length)
    else .ok (e.store rest)
  | _ => .error (.tooShort body.length)

/-- Drops the reception and cancels the send; a held reply stays. -/
def restart (e : Endpoint kind) : Endpoint kind :=
  { e with session := e.session.reset, ready := false }

/-- A chunk with a known tag; `body` is the chunk without its channel. -/
def perform (e : Endpoint kind) (tag : Tag) (channel : UInt16) (chunk body : List UInt8) :
    Except ChunkError (Received × Endpoint kind) :=
  match tag with
  | .apdu => if e.isSending then .ok (.dropped, e) else e.receiveMessage channel body
  | .init =>
    match checkControl kind body with
    | .error error => .error error
    | .ok () =>
      let e := e.restart
      .ok (e.answer (e.echo chunk))
  | .abort => .ok (.reset, e.restart)
  | .version =>
    match checkControl kind body with
    | .error error => .error error
    | .ok () => .ok (e.answer (e.controlHeader channel Tag.version.byte ++ kind.versionBody))
  | .echo =>
    match checkControl kind body with
    | .error error => .error error
    | .ok () => .ok (e.answer (e.echo chunk))
  | .mtu =>
    .ok (e.answer (e.controlHeader channel Tag.mtu.byte ++
      [0x00, 0x00, 0x00, 0x01, UInt8.ofNat e.chunkLength]))
  | .allocateChannel => .ok (.channelRequest channel, e)

def dispatch (e : Endpoint kind) (chunk : List UInt8) :
    Except ChunkError (Received × Endpoint kind) :=
  match chunk.drop kind.channelWidth with
  | [] => .error (.tooShort chunk.length)
  | byte :: body =>
    match kind.classify byte with
    | some tag => e.perform tag (channelOf kind chunk) chunk (byte :: body)
    | none => if kind.ignoresUnknown then .ok (.ignored, e) else .error (.unknownTag byte)

def receive (e : Endpoint kind) (chunk : List UInt8) : Except ChunkError Received × Endpoint kind :=
  match e.dispatch chunk with
  | .ok (received, e) => (.ok received, e)
  | .error error => (.error error, e.restart)

/-- Takes the send lock for a message of this length; the received message counts as used. -/
def beginSend (e : Endpoint kind) (length : Nat) : Except SendError Unit × Endpoint kind :=
  if 65535 < length then (.error (.tooLong length), e)
  else
    match e.session.lock.acquire with
    | .error error => (.error error, e)
    | .ok lock =>
      (.ok (), { e with
        session := { e.session with lock := lock }
        send := .start length
        ready := false })

def messageHeader (e : Endpoint kind) : List UInt8 :=
  e.controlHeader e.session.channel Tag.apdu.byte ++ Word.big (UInt16.ofNat e.send.sequence) ++
    if e.send.sequence = 0 then Word.big (UInt16.ofNat e.send.length) else []

/-- The next chunk of the message, none when all is out or when no payload byte would fit.
An empty message still has one chunk. -/
def nextChunk (e : Endpoint kind) (data : List UInt8) : Option (List UInt8) × Endpoint kind :=
  if e.send.active then
    let header := e.messageHeader
    let count := min (e.chunkLength - header.length) e.send.remaining
    if count = 0 ∧ 0 < e.send.remaining then
      (none, { e with send := { e.send with active := false } })
    else if data.length < e.send.offset + count then (none, e)
    else
      let chunk := e.pad (header ++ (data.drop e.send.offset).take count)
      (some chunk, { e with
        send := { e.send with
          offset := e.send.offset + count
          sequence := nextSequence e.send.sequence
          active := decide (0 < e.send.remaining - count) } })
  else (none, e)

/-- Enters a transmit, unless the host has cancelled the send. -/
def enterTransmit (e : Endpoint kind) : Except SendError Unit × Endpoint kind :=
  match e.session.lock.enter with
  | .error error => (.error error, e)
  | .ok lock => (.ok (), { e with session := { e.session with lock := lock } })

def leaveTransmit (e : Endpoint kind) : Endpoint kind :=
  { e with session := { e.session with lock := e.session.lock.leave } }

def finishSend (e : Endpoint kind) : Endpoint kind :=
  { e with session := { e.session with lock := e.session.lock.release }, send := {} }

/-- Transmits a held reply, if one may go out; its loss is not reported. -/
def flushDeferred (e : Endpoint kind) (sink : Sink) : Endpoint kind × Sink :=
  match e.takeDeferred with
  | (some reply, e) => (e, (sink.transmit reply).2)
  | (none, e) => (e, sink)

/-- Chunks of the message until none is left or one fails. Each takes at least one byte, so
one more step than the message has bytes is enough. -/
def transmitChunks (data : List UInt8) :
    Nat → Endpoint kind → Sink → Except SendError Unit × Endpoint kind × Sink
  | 0, e, sink => (.ok (), e, sink)
  | steps + 1, e, sink =>
    match e.nextChunk data with
    | (none, e) => (.ok (), e, sink)
    | (some chunk, e) =>
      match e.enterTransmit with
      | (.error error, e) => (.error error, e, sink)
      | (.ok (), e) =>
        let (sent, sink) := sink.transmit chunk
        let (e, sink) := e.leaveTransmit.flushDeferred sink
        match sent with
        | .error error => (.error (.link error), e, sink)
        | .ok () => transmitChunks data steps e sink

def sendAll (e : Endpoint kind) (data : List UInt8) (sink : Sink) :
    Except SendError Unit × Endpoint kind × Sink :=
  match e.beginSend data.length with
  | (.error error, e) => (.error error, e, sink)
  | (.ok (), e) =>
    let (result, e, sink) := transmitChunks data (data.length + 1) e sink
    let (e, sink) := e.finishSend.flushDeferred sink
    (result, e, sink)

end Endpoint

end CardLink
