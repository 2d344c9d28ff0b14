import CardLink.Proofs.Framing.Likeness

namespace CardLink

variable {kind : LinkKind} {chunk : List UInt8}

namespace Chunk

/-- A control chunk that the link takes, and that does not make it start over: it asks for the
version or an echo, with sequence zero where the link is strict about that, for the chunk length or
for a channel, or it has an unknown tag on a link that ignores such. -/
def Asks (kind : LinkKind) (chunk : List UInt8) : Prop :=
  (tag? kind chunk = some .version ∨ tag? kind chunk = some .echo) ∧
      (kind.strictSequence = true → 3 ≤ (body kind chunk).length ∧ sequence kind chunk = 0) ∨
    tag? kind chunk = some .mtu ∨ tag? kind chunk = some .allocateChannel ∨
    tag? kind chunk = none ∧ body kind chunk ≠ [] ∧ kind.ignoresUnknown = true

instance (kind : LinkKind) (chunk : List UInt8) : Decidable (Asks kind chunk) :=
  inferInstanceAs (Decidable ((_ ∨ _) ∧ (_ → _ ∧ _) ∨ _ ∨ _ ∨ _ ∧ _ ∧ _))

/-- How a chunk that asks is answered. -/
inductive Answer (kind : LinkKind) (chunk : List UInt8) : Received → Prop
  | reply (reply : List UInt8)
      (tagged : tag? kind chunk = some .version ∨ tag? kind chunk = some .echo ∨
        tag? kind chunk = some .mtu) : Answer kind chunk (.reply reply)
  | deferred (tagged : tag? kind chunk = some .version ∨ tag? kind chunk = some .echo ∨
        tag? kind chunk = some .mtu) : Answer kind chunk .deferred
  | channel (tagged : tag? kind chunk = some .allocateChannel) :
      Answer kind chunk (.channelRequest (Endpoint.channelOf kind chunk))
  | ignored (untagged : tag? kind chunk = none) : Answer kind chunk .ignored

end Chunk

theorem Word.join_eq_zero (high low : UInt8) :
    (Word.join high low).toNat = 0 ↔ high = 0 ∧ low = 0 := by
  have first := high.toNat_lt
  have second := low.toNat_lt
  rw [Word.join, UInt16.toNat_ofNat', ← UInt8.toNat_inj, ← UInt8.toNat_inj]
  simp only [UInt8.toNat_zero]
  omega

namespace Endpoint

variable {e a b : Endpoint kind}

theorem checkControl_ok (kind : LinkKind) (chunk : List UInt8) :
    checkControl kind (Chunk.body kind chunk) = .ok () ↔ (kind.strictSequence = true →
      3 ≤ (Chunk.body kind chunk).length ∧ Chunk.sequence kind chunk = 0) := by
  unfold checkControl
  by_cases strict : kind.strictSequence = true
  · simp only [strict, if_true, forall_const]
    by_cases whole : 3 ≤ (Chunk.body kind chunk).length
    · obtain ⟨tag, high, low, rest, fields⟩ := Chunk.fields_of_length whole
      rw [and_iff_right whole, Chunk.sequence_eq fields, Word.join_eq_zero, fields]
      simp
    · split
      · rename_i fields
        simp [fields] at whole
      · simp [whole]
  · simp [strict]

theorem dispatch_tagged {tag : Tag} (tagged : Chunk.tag? kind chunk = some tag) :
    e.dispatch chunk = e.perform tag (channelOf kind chunk) chunk (Chunk.body kind chunk) := by
  obtain ⟨byte, head, classified⟩ := Option.bind_eq_some_iff.mp tagged
  obtain ⟨rest, body⟩ := List.head?_eq_some_iff.mp head
  have shape : chunk.drop kind.channelWidth = byte :: rest := body
  simp only [dispatch, shape, classified, body]

theorem dispatch_ignored (untagged : Chunk.tag? kind chunk = none)
    (some : Chunk.body kind chunk ≠ []) (ignores : kind.ignoresUnknown = true) :
    e.dispatch chunk = .ok (.ignored, e) := by
  obtain ⟨byte, rest, body⟩ := List.exists_cons_of_ne_nil some
  have shape : chunk.drop kind.channelWidth = byte :: rest := body
  have classified : kind.classify byte = none := by
    rwa [Chunk.tag?, body] at untagged
  simp only [dispatch, shape, classified, ignores, if_true]

theorem dispatch_unknown (untagged : Chunk.tag? kind chunk = none)
    (refused : ¬(Chunk.body kind chunk ≠ [] ∧ kind.ignoresUnknown = true)) :
    ∃ error, e.dispatch chunk = .error error := by
  rcases body : Chunk.body kind chunk with _ | ⟨byte, rest⟩
  · have shape : chunk.drop kind.channelWidth = [] := body
    exact ⟨.tooShort chunk.length, by simp only [dispatch, shape]⟩
  · have shape : chunk.drop kind.channelWidth = byte :: rest := body
    have classified : kind.classify byte = none := by
      rwa [Chunk.tag?, body] at untagged
    have strict : ¬kind.ignoresUnknown = true := fun ignores =>
      refused ⟨by simp [body], ignores⟩
    exact ⟨.unknownTag byte, by simp [dispatch, shape, classified, strict]⟩

/-- Everything but the held reply is the same. -/
def SameButHeld (e after : Endpoint kind) : Prop := after = { e with held := after.held }

theorem SameButHeld.refl (e : Endpoint kind) : e.SameButHeld e := rfl

theorem SameButHeld.exists_held (same : a.SameButHeld b) : ∃ held, b = { a with held := held } :=
  ⟨b.held, same⟩

theorem SameButHeld.trans {c : Endpoint kind} (first : a.SameButHeld b) (second : b.SameButHeld c) :
    a.SameButHeld c := by
  obtain ⟨held, rfl⟩ := first.exists_held
  exact second

theorem store_alike (same : a.SameButHeld b) (payload : List UInt8) :
    Alike SameButHeld (a.store payload) (b.store payload) := by
  obtain ⟨held, rfl⟩ := same.exists_held
  simp only [store]
  split <;> exact ⟨rfl, fun _ _ => rfl, rfl⟩

/-- The held reply has no part in how a chunk is received. -/
theorem sameButHeld_bisimulation : Bisimulation (@SameButHeld kind) where
  layout same := by rw [same]
  sending same := by rw [same]; rfl
  expected same := by rw [same]
  channel same _ := by rw [same]
  restart same := by rw [same]; rfl
  answer {a b} same reply := by
    obtain ⟨held, rfl⟩ := same.exists_held
    by_cases inside : a.session.lock.inTransmit = true
    · simp only [Endpoint.answer, queueReply, inside, if_true]
      exact ⟨rfl, nofun, rfl⟩
    · simp only [Endpoint.answer, queueReply, inside]
      exact ⟨rfl, nofun, rfl⟩
  first {a b} same total channel payload := by
    have started : (a.starting total channel).SameButHeld (b.starting total channel) := by
      rw [same]; rfl
    exact store_alike started payload
  next same _ payload := store_alike same payload

theorem answer_answers (e : Endpoint kind) (reply : List UInt8)
    (tagged : Chunk.tag? kind chunk = some .version ∨ Chunk.tag? kind chunk = some .echo ∨
      Chunk.tag? kind chunk = some .mtu) :
    Chunk.Answer kind chunk (e.answer reply).1 ∧ e.SameButHeld (e.answer reply).2 := by
  unfold Endpoint.answer queueReply
  by_cases inside : e.session.lock.inTransmit = true
  · simp only [inside, if_true]
    exact ⟨.deferred tagged, rfl⟩
  · simp only [inside]
    exact ⟨.reply _ tagged, rfl⟩

/-- A chunk that only asks is answered, and all but the held reply stays as it is. -/
theorem receive_asks (asks : Chunk.Asks kind chunk) (e : Endpoint kind) :
    ∃ received, (e.receive chunk).1 = .ok received ∧ Chunk.Answer kind chunk received ∧
      e.SameButHeld (e.receive chunk).2 := by
  unfold Endpoint.receive
  rcases asks with ⟨tagged, wellFormed⟩ | tagged | tagged | ⟨untagged, some, ignores⟩
  · have passes := (checkControl_ok kind chunk).mpr wellFormed
    rcases tagged with tagged | tagged
    · rw [dispatch_tagged tagged]
      simp only [perform, passes]
      exact ⟨_, rfl, answer_answers e _ (.inl tagged)⟩
    · rw [dispatch_tagged tagged]
      simp only [perform, passes]
      exact ⟨_, rfl, answer_answers e _ (.inr (.inl tagged))⟩
  · rw [dispatch_tagged tagged]
    exact ⟨_, rfl, answer_answers e _ (.inr (.inr tagged))⟩
  · rw [dispatch_tagged tagged]
    exact ⟨_, rfl, .channel tagged, rfl⟩
  · rw [dispatch_ignored untagged some ignores]
    exact ⟨_, rfl, .ignored untagged, rfl⟩

theorem receiveAll_asks {chunks : List (List UInt8)}
    (asks : ∀ chunk ∈ chunks, Chunk.Asks kind chunk) (e : Endpoint kind) :
    e.SameButHeld (e.receiveAll chunks).2 := by
  induction chunks generalizing e with
  | nil => rfl
  | cons chunk rest ih =>
    obtain ⟨-, -, -, same⟩ := receive_asks (asks chunk List.mem_cons_self) e
    exact same.trans (ih (fun chunk member => asks chunk (List.mem_cons_of_mem _ member)) _)

/-- What the owner of an endpoint sees of its reception. -/
structure Sight where
  session : Session
  message : List UInt8
  /-- The answer to a request for a completed message. -/
  handedOver : Option Nat

def sight (e : Endpoint kind) : Sight := ⟨e.session, e.message, e.takeComplete.1⟩

theorem SameButHeld.sight (same : a.SameButHeld b) : a.sight = b.sight := by
  obtain ⟨held, rfl⟩ := same.exists_held
  unfold Endpoint.sight Endpoint.takeComplete
  dsimp only
  split <;> rfl

/-- The answers to some chunks, with what is seen after each, and what is seen at the end. Others
are taken in before each of them and after the last, as given for each position. -/
def sights (e : Endpoint kind) (between : Nat → List (List UInt8)) (position : Nat) :
    List (List UInt8) → List (Except ChunkError Received × Sight) × Sight
  | [] => ([], (e.receiveAll (between position)).2.sight)
  | chunk :: rest =>
    let (answer, e) := (e.receiveAll (between position)).2.receive chunk
    let (seen, last) := e.sights between (position + 1) rest
    ((answer, e.sight) :: seen, last)

theorem SameButHeld.sights {between : Nat → List (List UInt8)}
    (asks : ∀ position, ∀ chunk ∈ between position, Chunk.Asks kind chunk)
    (same : a.SameButHeld b) (position : Nat) (chunks : List (List UInt8)) :
    b.sights between position chunks = a.sights (fun _ => []) position chunks := by
  induction chunks generalizing a b position with
  | nil =>
    have asked := same.trans (receiveAll_asks (asks position) b)
    exact congrArg _ asked.sight.symm
  | cons chunk rest ih =>
    have asked := same.trans (receiveAll_asks (asks position) b)
    obtain ⟨answer, -, still⟩ := sameButHeld_bisimulation.receive asked chunk
    simp only [Endpoint.sights, receiveAll]
    rw [ih still, ← answer, still.sight]

/-- Chunks that only ask can come in anywhere between others: the others are answered as without
them, they leave the same session, and the message that is held and its handing over are the same
throughout. -/
theorem requests_disturb_nothing {between : Nat → List (List UInt8)}
    (asks : ∀ position, ∀ chunk ∈ between position, Chunk.Asks kind chunk) (e : Endpoint kind)
    (chunks : List (List UInt8)) :
    e.sights between 0 chunks = e.sights (fun _ => []) 0 chunks :=
  SameButHeld.sights asks (.refl e) 0 chunks

/-- On a strict link a version and an echo are asked for in the middle of a message and after it,
while a transmit is on the stack; on reports, a channel on one other than that of the message. -/
theorem requests_disturb_nothing_midway :
    let transmitting : Endpoint .legacy :=
      { layout := .legacy 20, session := { lock := { depth := 1 } } }
    let version : List UInt8 := [0, 0, 0]
    let echo : List UInt8 := [2, 0, 0, 7]
    let message : List (List UInt8) := [[5, 0, 0, 0, 2, 0xAA], [5, 0, 1, 0xBB]]
    let device : Endpoint .usb := { layout := .usb 8 }
    let allocate : List UInt8 := [3, 4, 1]
    let reports : List (List UInt8) := [[1, 2, 5, 0, 0, 0, 2, 0xAA], [1, 2, 5, 0, 1, 0xBB]]
    ((∀ chunk ∈ [version, echo], Chunk.Asks .legacy chunk) ∧ Chunk.Asks .usb allocate) ∧
    transmitting.sights (fun position => if position = 0 then [] else [version, echo]) 0 message =
      transmitting.sights (fun _ => []) 0 message ∧
    device.sights (fun _ => [allocate]) 0 reports = device.sights (fun _ => []) 0 reports := by
  intro transmitting version echo message device allocate reports
  have asks : ∀ chunk ∈ [version, echo], Chunk.Asks .legacy chunk := by decide
  have asksChannel : Chunk.Asks .usb allocate := by decide
  refine ⟨⟨asks, asksChannel⟩, requests_disturb_nothing (fun position chunk member => ?_) ..,
    requests_disturb_nothing (fun position chunk member => ?_) ..⟩
  · split at member
    · cases member
    · exact asks chunk member
  · cases List.mem_singleton.mp member
    exact asksChannel

end Endpoint

end CardLink
