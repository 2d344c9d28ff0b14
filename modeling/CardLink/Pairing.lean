import CardLink.Random

namespace CardLink

inductive PairingPrompt where
  /-- Show this number; the host's user types it. -/
  | passkey (code : UInt32)
  /-- Show this number and ask whether the host shows the same. -/
  | comparison (code : UInt32)
  deriving DecidableEq, Repr

inductive PairingAnswer where
  | ok
  | ignore
  | reject
  deriving DecidableEq, Repr

inductive PairingEnd where
  | success
  | timeout
  | cancelledFromRemote
  | failed
  | acceptPasskey
  | cancelPasskey
  | confirmYes
  | confirmNo
  deriving DecidableEq, Repr

inductive PairingMessage where
  | request (prompt : PairingPrompt)
  | closed (reason : PairingEnd)
  deriving DecidableEq, Repr

inductive PairingReply where
  | passkey (code : UInt32)
  | confirm (yes : Bool)
  deriving DecidableEq, Repr

/-- What the controller last asked and has not been told. -/
inductive PairingQuestion where
  | passkey
  | comparison
  deriving DecidableEq, Repr

/-- The controller asks for a passkey or for the comparison of a number; the user sees a message and
answers; the answer becomes one reply to the controller. -/
structure Pairing where
  random : RandomSource
  code : UInt32 := 0
  question : Option PairingQuestion := none
  inProgress : Bool := false
  /-- Messages that the user has not read, the oldest first. -/
  messages : List PairingMessage := []

namespace Pairing

/-- Codes have six decimal digits. -/
def codeBound : UInt32 := 1000000

/-- Messages that may wait unread; further ones are lost. -/
def messageCapacity : Nat := 4

def post (p : Pairing) (message : PairingMessage) : Pairing :=
  if p.messages.length < messageCapacity then { p with messages := p.messages ++ [message] } else p

def nextMessage (p : Pairing) : Option PairingMessage × Pairing :=
  match p.messages with
  | [] => (none, p)
  | message :: rest => (some message, { p with messages := rest })

def drawCode (p : Pairing) : Pairing :=
  let (word, random) := p.random.next
  { p with code := word % codeBound, random := random }

/-- The controller asks for a passkey: one is drawn and shown. -/
def requestPasskey (p : Pairing) : Pairing :=
  let p := p.drawCode
  { p with question := some .passkey, inProgress := true }.post (.request (.passkey p.code))

/-- The controller asks whether the host shows the same number. -/
def requestComparison (p : Pairing) (value : UInt32) : Pairing :=
  { p with question := some .comparison, inProgress := true }.post
    (.request (.comparison (value % codeBound)))

def close (p : Pairing) (reason : PairingEnd) : Pairing :=
  if p.inProgress then p.post (.closed reason) else p

/-- Turns the user's answer into the reply to what was asked, if anything was. A declined passkey
is replaced, so that the host cannot pair with the one shown. -/
def respond (p : Pairing) (answer : PairingAnswer) : Option PairingReply × Pairing :=
  let asked := p.question
  let p := { p with question := none }
  match asked, answer with
  | none, _ => (none, p)
  | some .passkey, .ok =>
    let p := p.close .acceptPasskey
    (some (.passkey p.code), p)
  | some .passkey, _ =>
    let p := (p.close .cancelPasskey).drawCode
    (some (.passkey p.code), p)
  | some .comparison, .ok => (some (.confirm true), p.close .confirmYes)
  | some .comparison, .ignore => (some (.confirm false), { p with inProgress := false })
  | some .comparison, .reject => (some (.confirm false), p.close .confirmNo)

/-- The meaning of the controller's status and reason at the end of a pairing. -/
def outcome (status reason : UInt8) : PairingEnd :=
  if status = 0x00 then .success
  else if status = 0x01 then .timeout
  else if status = 0x02 ∧ reason = 0x08 then .cancelledFromRemote
  else .failed

def complete (p : Pairing) (status reason : UInt8) : Pairing :=
  { p.close (outcome status reason) with inProgress := false, question := none }

end Pairing

end CardLink
