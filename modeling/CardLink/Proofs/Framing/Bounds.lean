import CardLink.Proofs.Framing.Balance

namespace CardLink

variable {kind : LinkKind}

/-- A step for which there is no room. -/
inductive Overrun where
  /-- A byte is read behind the end of the chunk. -/
  | pastChunk
  /-- A byte is copied behind the end of the buffer. -/
  | pastBuffer
  /-- More bytes are recorded than are to come. -/
  | pastReception
  /-- The sequence number wraps. -/
  | pastSequence
  deriving DecidableEq, Repr

namespace Chunk

def byteAt? (bytes : List UInt8) (position : Nat) : Except Overrun UInt8 :=
  match bytes[position]? with
  | some byte => .ok byte
  | none => .error .pastChunk

def wordAt? (bytes : List UInt8) (position : Nat) : Except Overrun UInt16 := do
  let high ← byteAt? bytes position
  let low ← byteAt? bytes (position + 1)
  return Word.join high low

def from? (bytes : List UInt8) (start : Nat) : Except Overrun (List UInt8) :=
  if bytes.length < start then .error .pastChunk else .ok (bytes.drop start)

def upTo? (bytes : List UInt8) (stop : Nat) : Except Overrun (List UInt8) :=
  if bytes.length < stop then .error .pastChunk else .ok (bytes.take stop)

theorem from?_eq {bytes : List UInt8} {start : Nat} (within : start ≤ bytes.length) :
    from? bytes start = .ok (bytes.drop start) :=
  if_neg (Nat.not_lt.mpr within)

theorem upTo?_min (bytes : List UInt8) (stop : Nat) :
    upTo? bytes (min bytes.length stop) = .ok (bytes.take stop) := by
  rw [upTo?, if_neg (Nat.not_lt.mpr (Nat.min_le_left ..)), Nat.min_comm, ← List.take_take,
    List.take_length]

end Chunk

def overwrite? (bytes : List UInt8) (position : Nat) (part : List UInt8) :
    Except Overrun (List UInt8) :=
  if bytes.length < position + part.length then .error .pastBuffer
  else .ok (overwrite bytes position part)

def Session.record? (s : Session) (count : Nat) : Except Overrun Session :=
  match s.advance? count with
  | .error _ => .error .pastReception
  | .ok next =>
    if next.remaining ≠ 0 ∧ 65535 < s.expected + 1 then .error .pastSequence else .ok next

namespace Endpoint

def channelOf? (kind : LinkKind) (chunk : List UInt8) : Except Overrun UInt16 :=
  if kind.channelWidth = 2 then Chunk.wordAt? chunk 0 else .ok 0

def checkControl? (kind : LinkKind) (body : List UInt8) :
    Except Overrun (Except ChunkError Unit) :=
  if kind.strictSequence then
    if body.length < 3 then .ok (.error (.tooShort body.length))
    else do
      let tag ← Chunk.byteAt? body 0
      let high ← Chunk.byteAt? body 1
      let low ← Chunk.byteAt? body 2
      return if high = 0 ∧ low = 0 then .ok () else .error (.unexpectedSequence tag)
  else .ok (.ok ())

def echo? (e : Endpoint kind) (chunk : List UInt8) : Except Overrun (List UInt8) :=
  Chunk.upTo? chunk (min chunk.length e.chunkLength)

def store? (e : Endpoint kind) (payload : List UInt8) :
    Except Overrun (Received × Endpoint kind) := do
  let count := min payload.length e.session.remaining
  let part ← Chunk.upTo? payload count
  let buffer ← overwrite? e.buffer e.session.cursor part
  let session ← e.session.record? count
  let e := { e with buffer := buffer, session := session }
  return if session.remaining = 0 then
    (.complete session.total, { e with messageLength := session.total, ready := true })
  else (.needMore, e)

def receiveMessage? (e : Endpoint kind) (channel : UInt16) (body : List UInt8) :
    Except Overrun (Except ChunkError (Received × Endpoint kind)) :=
  if body.length < 3 then .ok (.error (.tooShort body.length))
  else do
    let sequence := (← Chunk.wordAt? body 1).toNat
    if sequence ≠ e.session.expected then
      return .error (.sequenceMismatch e.session.expected sequence)
    else if sequence = 0 then
      if body.length < 5 then return .error (.tooShort body.length)
      else
        let total := (← Chunk.wordAt? body 3).toNat
        if messageCapacity < total then return .error (.overflow total messageCapacity)
        else if 0 < total ∧ body.length < 6 then return .error (.tooShort body.length)
        else
          let payload ← Chunk.from? body 5
          let e := { e with session := e.session.start total channel, ready := false }
          return .ok (← e.store? payload)
    else if 0 < kind.channelWidth ∧ channel ≠ e.session.channel then
      return .error (.channelMismatch e.session.channel channel)
    else if body.length < 4 then return .error (.tooShort body.length)
    else
      let payload ← Chunk.from? body 3
      return .ok (← e.store? payload)

def perform? (e : Endpoint kind) (tag : Tag) (channel : UInt16) (chunk body : List UInt8) :
    Except Overrun (Except ChunkError (Received × Endpoint kind)) :=
  match tag with
  | .apdu => if e.isSending then .ok (.ok (.dropped, e)) else e.receiveMessage? channel body
  | .init => do
    match ← checkControl? kind body with
    | .error error => return .error error
    | .ok () =>
      let e := e.restart
      return .ok (e.answer (← e.echo? chunk))
  | .version => do
    match ← checkControl? kind body with
    | .error error => return .error error
    | .ok () => return .ok (e.answer (e.controlHeader channel Tag.version.byte ++ kind.versionBody))
  | .echo => do
    match ← checkControl? kind body with
    | .error error => return .error error
    | .ok () => return .ok (e.answer (← e.echo? chunk))
  | .abort | .mtu | .allocateChannel => .ok (e.perform tag channel chunk body)

def dispatch? (e : Endpoint kind) (chunk : List UInt8) :
    Except Overrun (Except ChunkError (Received × Endpoint kind)) :=
  if chunk.length ≤ kind.channelWidth then .ok (.error (.tooShort chunk.length))
  else do
    let channel ← channelOf? kind chunk
    let body ← Chunk.from? chunk kind.channelWidth
    let byte ← Chunk.byteAt? body 0
    match kind.classify byte with
    | some tag => e.perform? tag channel chunk body
    | none => return if kind.ignoresUnknown then .ok (.ignored, e) else .error (.unknownTag byte)

/-- Receiving a chunk, given up at the first step for which there is no room. -/
def receive? (e : Endpoint kind) (chunk : List UInt8) :
    Except Overrun (Except ChunkError Received × Endpoint kind) := do
  match ← e.dispatch? chunk with
  | .ok (received, e) => return (.ok received, e)
  | .error error => return (.error error, e.restart)

variable {e : Endpoint kind} {steps : List (Endpoint kind × Handling kind)}

theorem echo?_eq (e : Endpoint kind) (chunk : List UInt8) : e.echo? chunk = .ok (e.echo chunk) :=
  Chunk.upTo?_min chunk e.chunkLength

theorem checkControl?_eq (kind : LinkKind) (body : List UInt8) :
    checkControl? kind body = .ok (checkControl kind body) := by
  unfold checkControl? checkControl
  split
  · rcases body with _ | ⟨tag, _ | ⟨high, _ | ⟨low, rest⟩⟩⟩
    · rfl
    · rfl
    · rfl
    · rw [if_neg (by simp)]
      rfl
  · rfl

theorem channelOf?_eq {chunk : List UInt8} (long : kind.channelWidth < chunk.length) :
    channelOf? kind chunk = .ok (channelOf kind chunk) := by
  unfold channelOf? channelOf
  split
  · rename_i wide
    rw [wide] at long
    rcases chunk with _ | ⟨high, _ | ⟨low, rest⟩⟩
    · exact absurd long (Nat.not_lt_zero 2)
    · exact absurd long (by simp)
    · rfl
  · rfl

/-- Within the bounds of the reception nothing that is stored oversteps the buffer, the reception
or the sequence numbers. -/
theorem Bounded.store?_eq (bounded : e.Bounded) (payload : List UInt8) :
    e.store? payload = .ok (e.store payload) := by
  have part := e.length_take_copied payload
  have small := bounded.cursor_copied payload
  have behind := bounded.behind
  have buffered : overwrite? e.buffer e.session.cursor (payload.take e.session.remaining) =
      .ok (overwrite e.buffer e.session.cursor (payload.take e.session.remaining)) := by
    refine if_neg (Nat.not_lt.mpr ?_)
    rw [part, bounded.buffer]
    exact small
  have recorded : e.session.record? (e.copied payload) =
      .ok (e.session.advance (e.copied payload)) := by
    have fits : ¬e.session.remaining < e.copied payload :=
      Nat.not_lt.mpr (Nat.min_le_right ..)
    have counted : ¬65535 < e.session.expected + 1 := by
      unfold messageCapacity at small
      omega
    simp only [Session.record?, Session.advance?, fits, counted, if_false, and_false]
  unfold store? Endpoint.store
  unfold copied at recorded part
  simp only [Chunk.upTo?_min, bind, Except.bind, buffered, recorded, part]
  rfl

theorem Bounded.receiveMessage?_eq (bounded : e.Bounded) (channel : UInt16) (body : List UInt8) :
    e.receiveMessage? channel body = .ok (e.receiveMessage channel body) := by
  unfold receiveMessage? Endpoint.receiveMessage
  rcases body with _ | ⟨tag, _ | ⟨high, _ | ⟨low, rest⟩⟩⟩
  · rfl
  · rfl
  · rfl
  rw [if_neg (by simp)]
  have word : Chunk.wordAt? (tag :: high :: low :: rest) 1 = .ok (Word.join high low) := rfl
  simp only [word, bind, Except.bind]
  split
  · rfl
  split
  · rcases rest with _ | ⟨high', _ | ⟨low', payload⟩⟩
    · rfl
    · rfl
    have word' : Chunk.wordAt? (tag :: high :: low :: high' :: low' :: payload) 3 =
        .ok (Word.join high' low') := rfl
    rw [if_neg (by simp)]
    simp only [word']
    split
    · rfl
    rename_i fits
    have short : (tag :: high :: low :: high' :: low' :: payload).length < 6 ↔ payload = [] := by
      rw [← List.length_eq_zero_iff]
      simp only [List.length_cons]
      omega
    simp only [short]
    split
    · rfl
    have stored := (bounded.starting (Nat.le_of_not_lt fits) channel).store?_eq payload
    unfold Endpoint.starting at stored
    have carried : Chunk.from? (tag :: high :: low :: high' :: low' :: payload) 5 = .ok payload :=
      Chunk.from?_eq (by simp)
    simp only [carried, stored]
    rfl
  · split
    · rfl
    have short : (tag :: high :: low :: rest).length < 4 ↔ rest = [] := by
      rw [← List.length_eq_zero_iff]
      simp only [List.length_cons]
      omega
    simp only [short]
    split
    · rfl
    have carried : Chunk.from? (tag :: high :: low :: rest) 3 = .ok rest :=
      Chunk.from?_eq (by simp)
    simp only [carried, bounded.store?_eq]
    rfl

theorem Bounded.perform?_eq (bounded : e.Bounded) (tag : Tag) (channel : UInt16)
    (chunk body : List UInt8) :
    e.perform? tag channel chunk body = .ok (e.perform tag channel chunk body) := by
  cases tag with
  | apdu =>
    simp only [perform?, perform, bounded.receiveMessage?_eq]
    split <;> rfl
  | init | version | echo =>
    simp only [perform?, perform, checkControl?_eq, echo?_eq, bind, Except.bind]
    cases checkControl kind body <;> rfl
  | abort | mtu | allocateChannel => rfl

theorem Bounded.dispatch?_eq (bounded : e.Bounded) (chunk : List UInt8) :
    e.dispatch? chunk = .ok (e.dispatch chunk) := by
  unfold dispatch? dispatch
  by_cases short : chunk.length ≤ kind.channelWidth
  · rw [if_pos short, List.drop_eq_nil_of_le short]
  · have long := Nat.lt_of_not_le short
    rcases body : chunk.drop kind.channelWidth with _ | ⟨byte, rest⟩
    · exact absurd (List.drop_eq_nil_iff.mp body) short
    have first : Chunk.byteAt? (byte :: rest) 0 = .ok byte := rfl
    simp only [if_neg short, channelOf?_eq long, Chunk.from?_eq (Nat.le_of_lt long), body, first,
      bind, Except.bind]
    cases kind.classify byte with
    | some tag => exact bounded.perform?_eq ..
    | none => rfl

/-- Within its bounds an endpoint takes every chunk without overstepping one. -/
theorem Bounded.receive?_eq (bounded : e.Bounded) (chunk : List UInt8) :
    e.receive? chunk = .ok (e.receive chunk) := by
  unfold receive? Endpoint.receive
  simp only [bounded.dispatch?_eq, bind, Except.bind]
  rcases e.dispatch chunk with error | ⟨received, after⟩ <;> rfl

/-- After anything at all has been done with an endpoint, whole sends included, the numbers of its
reception add up, and no chunk whatever oversteps the buffer, the reception or the sequence numbers.
A chunk that is stored takes what it carries from what is to come, and at least a byte while any is;
one that is refused, starts over or aborts leaves zeros, as every reset does. -/
theorem Trail.receives_within_bounds {layout : Layout kind}
    (trail : Trail { layout := layout } steps e) :
    (e.Balanced ∧
      (∀ handling : Handling kind, handling.Clears → (e.handle handling).session.Cleared) ∧
      ∀ data sink, ∃ more, Trail { layout := layout } more (e.sendAll data sink).2.1) ∧
    ∀ chunk, e.receive? chunk = .ok (e.receive chunk) ∧
      (e.Cancels chunk → (e.receive chunk).2.session.Cleared) ∧
      (Received.Stores (e.receive chunk).1 → e.Takes chunk (e.receive chunk).2) := by
  have balanced := trail.balanced (balanced_new layout)
  refine ⟨⟨balanced, fun handling clears => handle_cleared clears, fun data sink => ?_⟩,
    fun chunk => ⟨balanced.receive?_eq chunk, fun cancels => cancels.givenUp.cleared,
      balanced.takes⟩⟩
  obtain ⟨more, sent⟩ := e.sendAll_leads data sink
  exact ⟨_, trail.append sent⟩

/-- A message of nine bytes of which three have come, and a chunk with more bytes than the six that
are left. -/
theorem Trail.receives_within_bounds_midway :
    let fresh : Endpoint .legacy := { layout := .legacy 20 }
    let waiting := (fresh.receive [5, 0, 0, 0, 9, 1, 2, 3]).2
    let last : List UInt8 := [5, 0, 1, 4, 5, 6, 7, 8, 9, 0, 0]
    (waiting.session.expected = 1 ∧ waiting.session.remaining = 6 ∧ waiting.Balanced) ∧
    (waiting.receive last).1 = .ok (.complete 9) ∧
    waiting.receive? last = .ok (waiting.receive last) ∧
    waiting.Takes last (waiting.receive last).2 := by
  intro fresh waiting last
  have trail : Trail fresh [(fresh, .operation (.receive [5, 0, 0, 0, 9, 1, 2, 3]))] waiting :=
    .operation fresh _
  obtain ⟨⟨balanced, -⟩, received⟩ := Trail.receives_within_bounds trail
  obtain ⟨checked, -, takes⟩ := received last
  exact ⟨⟨rfl, rfl, balanced⟩, rfl, checked, takes trivial⟩

end Endpoint

end CardLink
