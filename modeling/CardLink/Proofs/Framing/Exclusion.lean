import CardLink.Proofs.Framing.Requests
import CardLink.Proofs.Framing.Resuming

namespace CardLink

variable {kind : LinkKind} {chunk : List UInt8}

/-- No reason to give up a message that goes out: a part of another one, or a chunk that only
asks. -/
def Chunk.Harmless (kind : LinkKind) (chunk : List UInt8) : Prop :=
  Chunk.tag? kind chunk = some .apdu ∨ Chunk.Asks kind chunk

instance (kind : LinkKind) (chunk : List UInt8) : Decidable (Chunk.Harmless kind chunk) :=
  inferInstanceAs (Decidable (_ ∨ _))

namespace Endpoint

variable {e a b : Endpoint kind}

theorem receive_passed_over (sending : e.isSending = true)
    (tagged : Chunk.tag? kind chunk = some .apdu) : e.receive chunk = (.ok .dropped, e) := by
  unfold receive
  rw [dispatch_tagged tagged]
  simp only [perform, sending, if_true]

theorem receive_refused (e : Endpoint kind) {error : ChunkError}
    (refused : e.dispatch chunk = .error error) : e.Cancels chunk := by
  refine .inl ⟨error, ?_⟩
  simp only [receive, refused]

/-- Whatever is neither part of a message nor a request that the link takes makes it start over. -/
theorem cancels_of_not_harmless (e : Endpoint kind) (harmful : ¬Chunk.Harmless kind chunk) :
    e.Cancels chunk := by
  unfold Chunk.Harmless Chunk.Asks at harmful
  rcases tagged : Chunk.tag? kind chunk with _ | tag
  · obtain ⟨error, refused⟩ := dispatch_unknown (e := e) tagged (by simpa [tagged] using harmful)
    exact e.receive_refused refused
  have malformed (queries : tag = .version ∨ tag = .echo) : e.Cancels chunk := by
    rcases checked : checkControl kind (Chunk.body kind chunk) with error | ⟨⟩
    · have refused : e.dispatch chunk = .error error := by
        rw [dispatch_tagged tagged]
        rcases queries with rfl | rfl <;> simp only [perform, checked]
      exact e.receive_refused refused
    · have wellFormed := (checkControl_ok kind chunk).mp checked
      refine absurd (.inr (.inl ⟨?_, wellFormed⟩)) harmful
      simpa [tagged] using queries
  cases tag with
  | apdu | mtu | allocateChannel => simp [tagged] at harmful
  | init => exact .inr (.inl tagged)
  | abort => exact .inr (.inr tagged)
  | version => exact malformed (.inl rfl)
  | echo => exact malformed (.inr rfl)

/-- What a link does not give up for, it leaves all as it is for but the held reply. -/
theorem receive_harmless (sending : e.isSending = true) (harmless : Chunk.Harmless kind chunk) :
    e.SameButHeld (e.receive chunk).2 := by
  rcases harmless with tagged | asks
  · rw [receive_passed_over sending tagged]
    exact .refl e
  · obtain ⟨-, -, -, same⟩ := receive_asks asks e
    exact same

theorem SameButHeld.isSending (same : a.SameButHeld b) : b.isSending = a.isSending := by
  rw [same]
  rfl

theorem receiveAll_harmless {chunks : List (List UInt8)} (sending : e.isSending = true)
    (harmless : ∀ chunk ∈ chunks, Chunk.Harmless kind chunk) :
    e.SameButHeld (e.receiveAll chunks).2 := by
  induction chunks generalizing e with
  | nil => exact .refl e
  | cons chunk rest ih =>
    have same := receive_harmless sending (harmless chunk List.mem_cons_self)
    exact same.trans (ih (same.isSending.trans sending) fun chunk member =>
      harmless chunk (List.mem_cons_of_mem _ member))

/-- What comes of asking for the next chunk again and again, once for each list of chunks that are
taken in before. -/
def nextChunks (data : List UInt8) (e : Endpoint kind) :
    List (List (List UInt8)) → List (Option (List UInt8))
  | [] => []
  | heard :: rest =>
    let (chunk, e) := (e.receiveAll heard).2.nextChunk data
    chunk :: nextChunks data e rest

/-- Harmless chunks taken in before each call do not change what the calls give. -/
theorem CutsAlike.nextChunks {data : List UInt8} {heard : List (List (List UInt8))}
    (alike : a.CutsAlike b) (sending : a.isSending = true)
    (harmless : ∀ chunks ∈ heard, ∀ chunk ∈ chunks, Chunk.Harmless kind chunk) :
    nextChunks data a heard = nextChunks data b (heard.map fun _ => []) := by
  induction heard generalizing a b with
  | nil => rfl
  | cons chunks rest ih =>
    have same := receiveAll_harmless sending (harmless chunks List.mem_cons_self)
    have still : (a.receiveAll chunks).2.CutsAlike b := by
      rw [same]
      exact ⟨alike.layout, alike.send, alike.channel⟩
    obtain ⟨chunk, after⟩ := still.nextChunk data
    have locked : ((a.receiveAll chunks).2.nextChunk data).2.isSending = true :=
      (nextChunk_isSending _ data).trans (same.isSending.trans sending)
    simp only [Endpoint.nextChunks, List.map_cons, receiveAll]
    rw [chunk, ih after locked fun chunks member => harmless chunks (List.mem_cons_of_mem _ member)]

/-- While a link sends, it passes over every part of a message that comes in, whatever its form; it
answers a chunk that only asks, and all but the held reply stays as it is; and it gives up both what
it sends and what it has been receiving at any other chunk, which it refuses or takes as the wish
to start over or to abort. So the chunks that it cuts off a message do not depend on what it hears
from one to the next, unless it gives the message up. -/
theorem sending_excludes_receiving :
    (∀ (e : Endpoint kind) (chunk : List UInt8), e.isSending = true →
      (Chunk.tag? kind chunk = some .apdu → e.receive chunk = (.ok .dropped, e)) ∧
      (Chunk.Asks kind chunk → ∃ received, (e.receive chunk).1 = .ok received ∧
        Chunk.Answer kind chunk received ∧ e.SameButHeld (e.receive chunk).2) ∧
      (¬Chunk.Harmless kind chunk → e.Cancels chunk ∧ e.GivenUp (e.receive chunk).2)) ∧
    ∀ (e started : Endpoint kind) (data : List UInt8) (heard : List (List (List UInt8))),
      e.beginSend data.length = (.ok (), started) →
      (∀ chunks ∈ heard, ∀ chunk ∈ chunks, Chunk.Harmless kind chunk) →
      nextChunks data started heard = nextChunks data started (heard.map fun _ => []) := by
  refine ⟨fun e chunk sending => ⟨receive_passed_over sending, fun asks => receive_asks asks e,
    fun harmful => ?_⟩, fun e started data heard begun harmless => ?_⟩
  · have cancels := e.cancels_of_not_harmless harmful
    exact ⟨cancels, cancels.givenUp⟩
  · have sending : started.isSending = true := by
      rcases e.beginSend_cases data.length with ⟨error, refused⟩ | ⟨-, begins⟩
      · cases begun.symm.trans refused
      · cases begun.symm.trans begins
        rfl
    exact (CutsAlike.refl started).nextChunks sending harmless

/-- Forty bytes go out in three chunks, while a part of a message without a sequence number, a
version and an echo come in. A version with a sequence number other than zero ends it. -/
theorem sending_excludes_receiving_strict :
    let e : Endpoint .legacy := { layout := .legacy 20 }
    let data : List UInt8 := List.replicate 40 0xA5
    let started := (e.beginSend data.length).2
    let bare : List UInt8 := [5]
    let version : List UInt8 := [0, 0, 0]
    let echo : List UInt8 := [2, 0, 0, 7]
    let late : List UInt8 := [0, 0, 1]
    let heard := [[version], [bare, echo], [], [bare]]
    (started.isSending = true ∧ e.beginSend data.length = (.ok (), started) ∧
      (∀ chunks ∈ heard, ∀ chunk ∈ chunks, Chunk.Harmless .legacy chunk) ∧
      Chunk.Asks .legacy version ∧ ¬Chunk.Harmless .legacy late) ∧
    started.receive bare = (.ok .dropped, started) ∧
    (∃ received, (started.receive version).1 = .ok received ∧
      Chunk.Answer .legacy version received ∧
      started.SameButHeld (started.receive version).2) ∧
    (started.Cancels late ∧ started.GivenUp (started.receive late).2) ∧
    nextChunks data started heard = nextChunks data started (heard.map fun _ => []) ∧
    (nextChunks data started heard).map (Option.map List.length) =
      [some 20, some 20, some 11, none] := by
  intro e data started bare version echo late heard
  have sending : started.isSending = true := rfl
  have harmless : ∀ chunks ∈ heard, ∀ chunk ∈ chunks, Chunk.Harmless .legacy chunk := by decide
  have asks : Chunk.Asks .legacy version := by decide
  have harmful : ¬Chunk.Harmless .legacy late := by decide
  obtain ⟨alone, between⟩ := @sending_excludes_receiving .legacy
  exact ⟨⟨sending, rfl, harmless, asks, harmful⟩, (alone started bare sending).1 rfl,
    (alone started version sending).2.1 asks, (alone started late sending).2.2 harmful,
    between e started data heard rfl harmless, by decide +kernel⟩

end Endpoint

end CardLink
