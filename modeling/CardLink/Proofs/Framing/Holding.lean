import CardLink.Proofs.Framing.Handling
import CardLink.Proofs.Framing.Sizes

namespace CardLink

variable {kind : LinkKind} {chunk : List UInt8}

/-- Where the link is strict about it, the chunk carries a sequence number, and it is zero. -/
def Chunk.Unnumbered (kind : LinkKind) (chunk : List UInt8) : Prop :=
  kind.strictSequence = true → 3 ≤ (body kind chunk).length ∧ sequence kind chunk = 0

instance (kind : LinkKind) (chunk : List UInt8) : Decidable (Chunk.Unnumbered kind chunk) :=
  inferInstanceAs (Decidable (_ → _ ∧ _))

/-- The handling neither enters a transmit nor takes the held reply nor drops it. -/
def Handling.Waits : Handling kind → Prop
  | operation .enterTransmit | operation .takeDeferred | operation .reset => False
  | _ => True

namespace Endpoint

variable {e mid after last : Endpoint kind} {handling : Handling kind}
  {during later rest : List (Endpoint kind × Handling kind)}

/-- The reply that a chunk of the host asks for. -/
def asked? (e : Endpoint kind) (chunk : List UInt8) : Option (List UInt8) :=
  match Chunk.tag? kind chunk with
  | some .init | some .echo =>
    if Chunk.Unnumbered kind chunk then some (chunk.take e.chunkLength) else none
  | some .version =>
    if Chunk.Unnumbered kind chunk then
      some (e.controlHeader (channelOf kind chunk) Tag.version.byte ++ kind.versionBody)
    else none
  | some .mtu =>
    some (e.controlHeader (channelOf kind chunk) Tag.mtu.byte ++
      [0x00, 0x00, 0x00, 0x01, UInt8.ofNat e.chunkLength])
  | _ => none

/-- The reply that a handling produces, as it goes out: the host asks for it, or the owner hands it
in. -/
def produced? (e : Endpoint kind) : Handling kind → Option (List UInt8)
  | .operation (.receive chunk) => (e.asked? chunk).map e.pad
  | .operation (.queueReply reply) => some (e.pad reply)
  | _ => none

theorem receive_unnumbered {tag : Tag} (tagged : Chunk.tag? kind chunk = some tag)
    (unnumbered : Chunk.Unnumbered kind chunk) {base : Endpoint kind} {reply : List UInt8}
    (answers : checkControl kind (Chunk.body kind chunk) = .ok () →
      e.perform tag (channelOf kind chunk) chunk (Chunk.body kind chunk) =
        .ok (base.answer reply)) :
    e.receive chunk = (.ok (base.answer reply).1, (base.answer reply).2) := by
  rw [receive, dispatch_tagged tagged, answers ((checkControl_ok kind chunk).mpr unnumbered)]

/-- A chunk that asks for a reply gets it. The host may have the link start over first. -/
theorem receive_asked {reply : List UInt8} (asks : e.asked? chunk = some reply) :
    ∃ base, (base = e ∨ base = e.restart) ∧
      e.receive chunk = (.ok (base.answer reply).1, (base.answer reply).2) := by
  unfold asked? at asks
  split at asks
  · rename_i tagged
    split at asks <;> cases asks
    rename_i unnumbered
    refine ⟨e.restart, .inr rfl, receive_unnumbered tagged unnumbered fun checked => ?_⟩
    simp only [perform, checked]
    rfl
  · rename_i tagged
    split at asks <;> cases asks
    rename_i unnumbered
    refine ⟨e, .inl rfl, receive_unnumbered tagged unnumbered fun checked => ?_⟩
    simp only [perform, checked]
    rfl
  · rename_i tagged
    split at asks <;> cases asks
    rename_i unnumbered
    refine ⟨e, .inl rfl, receive_unnumbered tagged unnumbered fun checked => ?_⟩
    simp only [perform, checked]
  · rename_i tagged
    cases asks
    refine ⟨e, .inl rfl, ?_⟩
    rw [receive, dispatch_tagged tagged]
    rfl
  · cases asks

theorem refused_unheeded {error : ChunkError} (refused : e.dispatch chunk = .error error) :
    e.Unheeded (e.receive chunk) := by
  rw [receive, refused]
  exact ⟨by simp, by simp, rfl⟩

theorem numbered_unheeded {tag : Tag} (tagged : Chunk.tag? kind chunk = some tag)
    (numbered : ¬Chunk.Unnumbered kind chunk)
    (refuses : ∀ error, checkControl kind (Chunk.body kind chunk) = .error error →
      e.perform tag (channelOf kind chunk) chunk (Chunk.body kind chunk) = .error error) :
    e.Unheeded (e.receive chunk) := by
  cases checked : checkControl kind (Chunk.body kind chunk) with
  | ok => exact absurd ((checkControl_ok kind chunk).mp checked) numbered
  | error error => exact refused_unheeded ((dispatch_tagged tagged).trans (refuses error checked))

/-- Any other chunk has none, and leaves what is held. -/
theorem receive_unasked (unasked : e.asked? chunk = none) : e.Unheeded (e.receive chunk) := by
  unfold asked? at unasked
  split at unasked
  · rename_i tagged
    split at unasked
    · cases unasked
    rename_i numbered
    exact numbered_unheeded tagged numbered fun error checked => by simp only [perform, checked]
  · rename_i tagged
    split at unasked
    · cases unasked
    rename_i numbered
    exact numbered_unheeded tagged numbered fun error checked => by simp only [perform, checked]
  · rename_i tagged
    split at unasked
    · cases unasked
    rename_i numbered
    exact numbered_unheeded tagged numbered fun error checked => by simp only [perform, checked]
  · cases unasked
  · rename_i initial echo version mtu
    have reception := receive_reception e chunk
    generalize e.receive chunk = answered at reception
    obtain ⟨answer, after⟩ := answered
    cases reception with
    | refused | unknown | allocated | dropped | aborted => exact ⟨by simp, by simp, rfl⟩
    | first => exact store_unheeded (e.opened chunk) _
    | next => exact store_unheeded e _
    | restarted tagged => exact absurd tagged initial
    | answered reply tagged =>
      rcases tagged with tagged | tagged | tagged
      · exact absurd tagged version
      · exact absurd tagged echo
      · exact absurd tagged mtu

theorem takeDeferred_inside (inside : e.session.lock.inTransmit = true) :
    e.takeDeferred = (none, e) :=
  if_pos inside

theorem takeDeferred_outside (outside : e.session.lock.inTransmit = false) :
    e.takeDeferred = (e.held, { e with held := none }) :=
  if_neg (by simp [outside])

theorem queueReply_held (e : Endpoint kind) (reply : List UInt8) :
    (e.queueReply reply).2.held =
      if e.session.lock.inTransmit then some (e.pad reply) else e.held := by
  unfold queueReply
  split <;> rfl

/-- While a transmit is on the stack, what is produced takes the place of what is held; otherwise
what is held stays. -/
theorem handle_held (unreset : handling ≠ .operation .reset)
    (untaken : handling = .operation .takeDeferred → e.session.lock.inTransmit = true) :
    (e.handle handling).held =
      if e.session.lock.inTransmit then (e.produced? handling).or e.held else e.held := by
  -- All but a reply and the taking of one leave what is held.
  suffices quiet : e.produced? handling = none → (e.handle handling).held = e.held by
    cases produced : e.produced? handling with
    | none =>
      rw [quiet produced, Option.none_or, ite_self]
    | some reply =>
      rw [Option.some_or]
      cases handling with
      | resetSession | cancelSend | setChannel => cases produced
      | operation operation =>
        cases operation with
        | receive chunk =>
          obtain ⟨bare, asks, rfl⟩ := Option.map_eq_some_iff.mp produced
          obtain ⟨base, started, same⟩ := receive_asked asks
          simp only [handle, operate, same, answer_endpoint, queueReply_held]
          rcases started with rfl | rfl <;> rfl
        | queueReply bare =>
          cases produced
          exact e.queueReply_held bare
        | _ => cases produced
  intro unproduced
  cases handling with
  | resetSession | cancelSend | setChannel => rfl
  | operation operation =>
    cases operation with
    | receive chunk => exact (receive_unasked (Option.map_eq_none_iff.mp unproduced)).2.2
    | queueReply => cases unproduced
    | reset => exact absurd rfl unreset
    | nextChunk data => exact e.nextChunk_held data
    | takeDeferred => simp only [handle, operate, takeDeferred_inside (untaken rfl)]
    | beginSend length =>
      rcases e.beginSend_cases length with ⟨error, same⟩ | ⟨-, same⟩ <;>
        simp only [handle, operate, same]
      rfl
    | enterTransmit =>
      simp only [handle, operate, enterTransmit]
      split <;> rfl
    | takeComplete =>
      simp only [handle, operate, takeComplete]
      split <;> rfl
    | leaveTransmit | finishSend | resetReception | retune => rfl

/-- After a stay inside a transmit, whatever was cancelled or refused in it, the reply produced last
is held. -/
theorem Trail.held_inside (trail : Trail e during mid)
    (inside : ∀ step ∈ during, step.1.session.lock.inTransmit = true)
    (unreset : ∀ step ∈ during, step.2 ≠ .operation .reset) :
    mid.held = (during.filterMap fun step => step.1.produced? step.2).getLast?.or e.held := by
  induction trail with
  | nil => rfl
  | @cons e mid during handling trail ih =>
    have first := handle_held (unreset _ List.mem_cons_self) fun _ => inside _ List.mem_cons_self
    rw [inside _ List.mem_cons_self, if_pos rfl] at first
    rw [ih (fun step member => inside step (List.mem_cons_of_mem _ member))
      (fun step member => unreset step (List.mem_cons_of_mem _ member)), first,
      List.filterMap_cons]
    cases e.produced? handling with
    | none => simp
    | some reply =>
      cases more : (during.filterMap fun step => step.1.produced? step.2).getLast? with
      | none => simp [List.getLast?_eq_none_iff.mp more]
      | some later => simp [List.getLast?_cons, more]

/-- Only a transmit that is entered or left changes how many are on the stack. -/
theorem handle_depth (unentered : handling ≠ .operation .enterTransmit)
    (unleft : handling ≠ .operation .leaveTransmit)
    (unfinished : handling ≠ .operation .finishSend) :
    (e.handle handling).session.lock.depth = e.session.lock.depth := by
  cases handling with
  | resetSession | cancelSend | setChannel => rfl
  | operation operation =>
    cases operation with
    | enterTransmit => exact absurd rfl unentered
    | leaveTransmit => exact absurd rfl unleft
    | finishSend => exact absurd rfl unfinished
    | receive chunk => exact (e.receive_keepsSend chunk).depth
    | queueReply reply => exact (e.queueReply_keepsSend reply).depth
    | takeDeferred => exact e.takeDeferred_keepsSend.depth
    | takeComplete => exact e.takeComplete_keepsSend.depth
    | nextChunk data => exact congrArg (·.lock.depth) (e.nextChunk_session data)
    | beginSend length =>
      rcases e.beginSend_cases length with ⟨error, same⟩ | ⟨-, same⟩ <;>
        simp only [handle, operate, same]
      rfl
    | reset | resetReception | retune => rfl

/-- A transmit is left by leaving it or by the end of the send, and by nothing else. -/
theorem handle_inside (inside : e.session.lock.inTransmit = true) :
    (e.handle handling).session.lock.inTransmit = true ∨
      handling = .operation .leaveTransmit ∨ handling = .operation .finishSend := by
  by_cases left : handling = .operation .leaveTransmit ∨ handling = .operation .finishSend
  · exact .inr left
  obtain ⟨unleft, unfinished⟩ := not_or.mp left
  left
  by_cases entered : handling = .operation .enterTransmit
  · subst entered
    simp only [handle, operate, enterTransmit, SendLock.enter]
    split
    · exact inside
    · rename_i taken
      split at taken <;> cases taken
      exact decide_eq_true (Nat.lt_min.mpr ⟨by decide, Nat.succ_pos _⟩)
  · rw [SendLock.inTransmit, handle_depth entered unleft unfinished]
    exact inside

theorem handle_outside (outside : e.session.lock.inTransmit = false)
    (unentered : handling ≠ .operation .enterTransmit) :
    (e.handle handling).session.lock.inTransmit = false := by
  by_cases left : handling = .operation .leaveTransmit
  · subst left
    have depth : ¬0 < e.session.lock.depth := of_decide_eq_false outside
    refine decide_eq_false (p := 0 < e.session.lock.depth - 1) ?_
    omega
  by_cases finished : handling = .operation .finishSend
  · subst finished
    rfl
  · rw [SendLock.inTransmit, handle_depth unentered left finished]
    exact outside

/-- Outside of a transmit the held reply stays until it is taken. -/
theorem Trail.held_outside (trail : Trail e later after)
    (outside : e.session.lock.inTransmit = false) (waits : ∀ step ∈ later, step.2.Waits) :
    after.session.lock.inTransmit = false ∧ after.held = e.held := by
  induction trail with
  | nil => exact ⟨outside, rfl⟩
  | @cons e after later handling trail ih =>
    have waiting : handling.Waits := waits _ List.mem_cons_self
    have unreset : handling ≠ .operation .reset := fun reset => by
      rw [reset] at waiting
      exact waiting
    have held := e.handle_held unreset
      (fun taken => by rw [taken] at waiting; exact waiting.elim)
    rw [outside] at held
    obtain ⟨still, same⟩ := ih
      (handle_outside outside fun entered => by rw [entered] at waiting; exact waiting)
      fun step member => waits step (List.mem_cons_of_mem _ member)
    exact ⟨still, same.trans held⟩

/-- While a transmit is on the stack nothing goes out in reply, held or new, and only leaving it or
ending the send takes it off. Once it is off, the reply that was produced last in the meantime is
handed out, or the one held before where none was; and it is handed out once. A send that is
cancelled in between, or a session that is reset, makes no difference to that. -/
theorem replies_held_during_transmit :
    (∀ e : Endpoint kind, e.session.lock.inTransmit = true →
      (∀ chunk reply, (e.receive chunk).1 ≠ .ok (.reply reply)) ∧ e.takeDeferred = (none, e) ∧
      ∀ handling, (e.handle handling).session.lock.inTransmit = true ∨
        handling = .operation .leaveTransmit ∨ handling = .operation .finishSend) ∧
    (∀ {e inner mid after last : Endpoint kind}
        {during later rest : List (Endpoint kind × Handling kind)},
      e.enterTransmit = (.ok (), inner) →
      Trail inner during mid → (∀ step ∈ during, step.1.session.lock.inTransmit = true) →
      (∀ step ∈ during, step.2 ≠ .operation .reset) → mid.session.lock.inTransmit = false →
      Trail mid later after → (∀ step ∈ later, step.2.Waits) →
      Trail after.takeDeferred.2 rest last → (∀ step ∈ rest, step.2.Waits) →
      after.takeDeferred.1 =
        (during.filterMap fun step => step.1.produced? step.2).getLast?.or e.held ∧
      last.takeDeferred.1 = none) ∧
    ∀ (e : Endpoint kind) data sink, e.Leads (e.sendAll data sink).2.1 := by
  refine ⟨fun e inside => ⟨fun chunk reply answered => ?_, takeDeferred_inside inside,
      fun handling => handle_inside inside⟩,
    fun {e inner mid after last during later rest} entered stay inside unreset undone wait waits
      wait' waits' => ?_, fun e data sink => e.sendAll_leads data sink⟩
  · rcases e.receive_replies_or_unheeded chunk with
      ⟨base, bare, -, started, same⟩ | ⟨unanswered, -⟩
    · have within : base.session.lock.inTransmit = true := by
        rcases started with rfl | rfl <;> exact inside
      rw [same, answer, queueReply, if_pos within] at answered
      cases answered
    · exact unanswered reply answered
  · have before : inner.held = e.held := by
      unfold enterTransmit at entered
      split at entered <;> cases entered
      rfl
    obtain ⟨outside, held⟩ := wait.held_outside undone waits
    have taken := takeDeferred_outside outside
    rw [taken] at wait' ⊢
    obtain ⟨outside', emptied⟩ := wait'.held_outside outside waits'
    rw [takeDeferred_outside outside']
    exact ⟨held.trans (before ▸ stay.held_inside inside unreset), emptied⟩

/-- A host that starts over in the middle of a transmit and then asks for the version, before the
owner cancels the send as well. -/
theorem replies_held_during_transmit_cancelled :
    let sender := (({ layout := .legacy 20 } : Endpoint .legacy).beginSend 40).2
    let inner := sender.enterTransmit.2
    let restarted := (inner.receive [1, 0, 0]).2
    let asked := (restarted.receive [0, 0, 0]).2
    let mid := (asked.handle .cancelSend).leaveTransmit
    sender.enterTransmit.1 = .ok () ∧ inner.session.lock.inTransmit = true ∧
    restarted.held = some [1, 0, 0] ∧ restarted.isSending = false ∧
    (∀ chunk reply, (restarted.receive chunk).1 ≠ .ok (.reply reply)) ∧
    mid.takeDeferred.1 = some [0, 0, 0, 0, 4, 0, 0, 0, 0] ∧
    mid.takeDeferred.2.takeDeferred.1 = none := by
  intro sender inner restarted asked mid
  have stay : Trail inner [(inner, .operation (.receive [1, 0, 0])),
      (restarted, .operation (.receive [0, 0, 0])), (asked, .cancelSend),
      (asked.handle .cancelSend, .operation .leaveTransmit)] mid :=
    .cons _ (.cons _ (.cons _ (.cons _ (.nil _))))
  obtain ⟨within, through, -⟩ := @replies_held_during_transmit .legacy
  obtain ⟨taken, emptied⟩ := through (e := sender) rfl stay (by decide) (by simp) rfl (.nil mid)
    (by simp) (.nil _) (by simp)
  exact ⟨rfl, rfl, rfl, rfl, (within restarted rfl).1, taken, emptied⟩

end Endpoint

end CardLink
