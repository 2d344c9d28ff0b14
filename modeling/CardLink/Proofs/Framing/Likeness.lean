import CardLink.Proofs.Framing.RoundTrip

namespace CardLink.Endpoint

variable {kind : LinkKind}

/-- The endpoint at the start of a reception of this length. -/
def starting (e : Endpoint kind) (total : Nat) (channel : UInt16) : Endpoint kind :=
  { e with session := e.session.start total channel, ready := false }

/-- The same answer, the same message where it is the last chunk of one, and related endpoints. -/
structure Alike (R : Endpoint kind → Endpoint kind → Prop) (x y : Received × Endpoint kind) :
    Prop where
  answer : x.1 = y.1
  message : ∀ total, x.1 = .complete total → x.2.message = y.2.message
  related : R x.2 y.2

/-- Related endpoints read every chunk alike, and stay related whatever they do with it. -/
structure Bisimulation (R : Endpoint kind → Endpoint kind → Prop) : Prop where
  layout : ∀ {a b}, R a b → a.layout = b.layout
  sending : ∀ {a b}, R a b → a.isSending = b.isSending
  expected : ∀ {a b}, R a b → a.session.expected = b.session.expected
  channel : ∀ {a b}, R a b → a.session.expected ≠ 0 → a.session.channel = b.session.channel
  restart : ∀ {a b}, R a b → R a.restart b.restart
  answer : ∀ {a b}, R a b → ∀ reply, Alike R (a.answer reply) (b.answer reply)
  first : ∀ {a b}, R a b → ∀ total channel payload,
    Alike R ((a.starting total channel).store payload) ((b.starting total channel).store payload)
  next : ∀ {a b}, R a b → a.session.expected ≠ 0 → ∀ payload,
    Alike R (a.store payload) (b.store payload)

/-- The message that this answer says is complete. -/
def completed (answer : Except ChunkError Received) (e : Endpoint kind) : Option (List UInt8) :=
  match answer with
  | .ok (.complete _) => some e.message
  | _ => none

/-- What is seen of an endpoint that takes in chunks: every answer, and every message once it is
complete. -/
def observations (e : Endpoint kind) :
    List (List UInt8) → List (Except ChunkError Received × Option (List UInt8))
  | [] => []
  | chunk :: rest =>
    ((e.receive chunk).1, completed (e.receive chunk).1 (e.receive chunk).2) ::
      (e.receive chunk).2.observations rest

/-- Both refuse a chunk for the same reason, or both take it alike. -/
inductive Matched (R : Endpoint kind → Endpoint kind → Prop) :
    Except ChunkError (Received × Endpoint kind) →
      Except ChunkError (Received × Endpoint kind) → Prop
  | refused (error : ChunkError) : Matched R (.error error) (.error error)
  | taken {x y : Received × Endpoint kind} (alike : Alike R x y) : Matched R (.ok x) (.ok y)

variable {R : Endpoint kind → Endpoint kind → Prop} {a b : Endpoint kind}

namespace Bisimulation

variable (sim : Bisimulation R) (related : R a b)
include sim related

theorem receiveMessage (channel : UInt16) (body : List UInt8) :
    Matched R (a.receiveMessage channel body) (b.receiveMessage channel body) := by
  have expected := sim.expected related
  unfold Endpoint.receiveMessage
  rcases body with _ | ⟨tag, _ | ⟨high, _ | ⟨low, rest⟩⟩⟩
  · exact .refused _
  · exact .refused _
  · exact .refused _
  dsimp only
  rw [← expected]
  split
  · exact .refused _
  rename_i inOrder
  split
  · rcases rest with _ | ⟨high', _ | ⟨low', payload⟩⟩
    · exact .refused _
    · exact .refused _
    dsimp only
    split
    · exact .refused _
    split
    · exact .refused _
    exact .taken (sim.first related _ channel payload)
  · rename_i later
    have underWay : a.session.expected ≠ 0 := by
      rw [← Decidable.not_not.mp inOrder]
      exact later
    rw [← sim.channel related underWay]
    split
    · exact .refused _
    split
    · exact .refused _
    exact .taken (sim.next related underWay rest)

theorem chunkLength : a.chunkLength = b.chunkLength :=
  congrArg Layout.chunkLength (sim.layout related)

theorem echo (chunk : List UInt8) : a.echo chunk = b.echo chunk :=
  congrArg chunk.take (sim.chunkLength related)

theorem perform (tag : Tag) (channel : UInt16) (chunk body : List UInt8) :
    Matched R (a.perform tag channel chunk body) (b.perform tag channel chunk body) := by
  have pass (answer : Received) (other : ∀ total, answer ≠ .complete total) :
      Matched R (.ok (answer, a)) (.ok (answer, b)) :=
    .taken ⟨rfl, fun total complete => absurd complete (other total), related⟩
  cases tag with
  | apdu =>
    simp only [Endpoint.perform, ← sim.sending related]
    split
    · exact pass _ fun _ complete => by cases complete
    · exact sim.receiveMessage related channel body
  | init =>
    simp only [Endpoint.perform]
    split
    · exact .refused _
    rw [← sim.echo (sim.restart related)]
    exact .taken (sim.answer (sim.restart related) _)
  | abort => exact .taken ⟨rfl, fun _ complete => (by cases complete), sim.restart related⟩
  | version =>
    simp only [Endpoint.perform]
    split
    · exact .refused _
    exact .taken (sim.answer related _)
  | echo =>
    simp only [Endpoint.perform]
    split
    · exact .refused _
    rw [← sim.echo related]
    exact .taken (sim.answer related _)
  | mtu =>
    simp only [Endpoint.perform, ← sim.chunkLength related]
    exact .taken (sim.answer related _)
  | allocateChannel => exact pass _ fun _ complete => by cases complete

theorem dispatch (chunk : List UInt8) : Matched R (a.dispatch chunk) (b.dispatch chunk) := by
  unfold Endpoint.dispatch
  rcases chunk.drop kind.channelWidth with _ | ⟨byte, body⟩
  · exact .refused _
  dsimp only
  rcases kind.classify byte with _ | tag
  · dsimp only
    split
    · exact .taken ⟨rfl, nofun, related⟩
    · exact .refused _
  · exact sim.perform related tag _ chunk (byte :: body)

/-- Related endpoints answer a chunk alike and stay related. -/
theorem receive (chunk : List UInt8) :
    (a.receive chunk).1 = (b.receive chunk).1 ∧
      (∀ total, (a.receive chunk).1 = .ok (.complete total) →
        (a.receive chunk).2.message = (b.receive chunk).2.message) ∧
      R (a.receive chunk).2 (b.receive chunk).2 := by
  have matched := sim.dispatch related chunk
  unfold Endpoint.receive
  generalize a.dispatch chunk = x at matched ⊢
  generalize b.dispatch chunk = y at matched ⊢
  cases matched with
  | refused error => exact ⟨rfl, nofun, sim.restart related⟩
  | taken alike =>
    obtain ⟨answer, message, related⟩ := alike
    exact ⟨congrArg Except.ok answer, fun total complete => message total (Except.ok.inj complete),
      related⟩

/-- No sequence of chunks tells related endpoints apart. -/
theorem observations (chunks : List (List UInt8)) : a.observations chunks = b.observations chunks := by
  induction chunks generalizing a b with
  | nil => rfl
  | cons chunk rest ih =>
    obtain ⟨answer, message, still⟩ := sim.receive related chunk
    have completed : completed (a.receive chunk).1 (a.receive chunk).2 =
        completed (b.receive chunk).1 (b.receive chunk).2 := by
      rw [← answer]
      unfold completed
      split
      · rename_i total complete
        rw [message total complete]
      · rfl
    simp only [Endpoint.observations]
    rw [completed, answer, ih still]

end Bisimulation

end CardLink.Endpoint
