import CardLink.Framing.Endpoint
import CardLink.Random

namespace CardLink

structure UsbDevice where
  endpoint : Endpoint .usb
  random : RandomSource

namespace UsbDevice

inductive Status where
  | reset
  | moreData
  | received (length : Nat)
  deriving DecidableEq, Repr

def create (settings : Settings) (random : RandomSource) : UsbDevice where
  endpoint := { layout := .usb settings.hidReportLength }
  random := random

def message (d : UsbDevice) : List UInt8 := d.endpoint.message

/-- A fresh channel number for the host that asked on this channel. -/
def answerChannel (d : UsbDevice) (channel : UInt16) (sink : Sink) : UsbDevice × Sink :=
  let (word, random) := d.random.next
  let reply := d.endpoint.controlHeader channel Tag.allocateChannel.byte ++ Word.big32 word
  match d.endpoint.queueReply reply with
  | (some reply, endpoint) => (⟨endpoint, random⟩, (sink.transmit reply).2)
  | (none, endpoint) => (⟨endpoint, random⟩, sink)

/-- Takes in one report; control replies go straight out, and their loss is not reported. -/
def receive (d : UsbDevice) (report : List UInt8) (sink : Sink) : Status × UsbDevice × Sink :=
  match d.endpoint.receive report with
  | (.error _, endpoint) => (.reset, { d with endpoint := endpoint }, sink)
  | (.ok received, endpoint) =>
    let d := { d with endpoint := endpoint }
    match received with
    | .complete length => (.received length, { d with endpoint := d.endpoint.takeComplete.2 }, sink)
    | .reply chunk => (.moreData, d, (sink.transmit chunk).2)
    | .channelRequest channel => (.moreData, d.answerChannel channel sink)
    | .reset => (.reset, d, sink)
    | .needMore | .deferred | .dropped | .ignored => (.moreData, d, sink)

/-- Sends a message on the current channel; no reception is in progress afterwards. -/
def send (d : UsbDevice) (data : List UInt8) (sink : Sink) :
    Except SendError Unit × UsbDevice × Sink :=
  let (result, endpoint, sink) := d.endpoint.sendAll data sink
  let endpoint := { endpoint with session := endpoint.session.resetReception }
  (result, { d with endpoint := endpoint }, sink)

end UsbDevice

end CardLink
