import CardLink.Proofs.Legacy.Inputs

namespace CardLink.Legacy

def Action.isResponse : Action → Bool
  | .writeResponse _ _ _ => true
  | .notify _ | .powerCycle => false

def responses (actions : List Action) : List Action := actions.filter Action.isResponse

namespace Core

/-- There is a place for the response, behind the reply that the value may lead to. -/
def HasRoom (c : Core) (input : Input) : Prop :=
  c.actions.length + (c.offers input).length ≤ actionCapacity

instance (c : Core) (input : Input) : Decidable (c.HasRoom input) :=
  inferInstanceAs (Decidable (_ ≤ _))

/-- The response to a permit that is met with room. -/
def answers (c : Core) (input : Input) : List Action :=
  if c.HasRoom input then input.permit?.toList.map Permit.response else []

/-- The action that is taken from the queue. -/
def hands (c : Core) : Input → List Action
  | .nextAction => c.nextAction.1.toList
  | _ => []

end Core

def answered (past : List (Core × Input)) : List Action := past.flatMap fun e => e.1.answers e.2

def handed (past : List (Core × Input)) : List Action := past.flatMap fun e => e.1.hands e.2

theorem responses_append (first second : List Action) :
    responses (first ++ second) = responses first ++ responses second := List.filter_append ..

theorem responses_notify (replies : List (List UInt8)) : responses (replies.map .notify) = [] := by
  refine List.filter_eq_nil_iff.mpr fun action member => ?_
  obtain ⟨reply, -, rfl⟩ := List.mem_map.mp member
  exact Bool.false_ne_true

theorem responses_permits (permits : List Permit) :
    responses (permits.map Permit.response) = permits.map Permit.response := by
  refine List.filter_eq_self.mpr fun action member => ?_
  obtain ⟨permit, -, rfl⟩ := List.mem_map.mp member
  rfl

namespace Core

variable {c after : Core} {input : Input}

/-- The response is behind the reply, so it is what is lost when the queue is full. -/
theorem responses_queued (c : Core) (input : Input) :
    responses (c.queued (c.offers input)) = responses c.actions ++ c.answers input := by
  rw [queued, responses_append, answers]
  refine congrArg (responses c.actions ++ ·) ?_
  by_cases room : c.HasRoom input
  · have enough : (c.offers input).length ≤ actionCapacity - c.actions.length := by
      unfold HasRoom at room
      omega
    rw [if_pos room, List.take_of_length_le enough, offers, responses_append, responses_notify,
      responses_permits, List.nil_append]
  · have single : (input.permit?.toList.map Permit.response).length ≤ 1 := by
      rw [List.length_map]
      exact Option.length_toList_le
    rw [if_neg room]
    rw [HasRoom, offers, List.length_append] at room
    rw [offers, List.take_append_of_le_length (by omega), ← List.map_take,
      responses_notify]

theorem answers_of_unasked (unasked : input.permit? = none) : c.answers input = [] := by
  rw [answers, unasked]
  exact ite_self _

theorem Turns.balances (turns : c.Turns input after) (kept : ¬c.Resets input) :
    responses c.actions ++ c.answers input =
      responses (c.hands input) ++ responses after.actions := by
  cases turns with
  | restarted resets => exact absurd resets kept
  | reset => exact absurd trivial kept
  | connected connects =>
    rw [answers_of_unasked (unasked_of_leMeta connects.1)]
    exact List.append_nil _
  | ticked =>
    rw [answers_of_unasked rfl]
    exact List.append_nil _
  | taken =>
    rw [answers_of_unasked rfl, List.append_nil, ← responses_append]
    refine congrArg responses ?_
    simp only [hands, nextAction]
    cases c.actions <;> rfl
  | served joined timeless untaken =>
    have kept : c.hands input = [] := by
      cases input with
      | nextAction => exact absurd rfl untaken
      | packet | tick | resetLink | setHandles | feed | clearPool | serve => rfl
    rw [kept]
    exact (c.responses_queued input).symm

end Core

variable {c m : Core} {later : List (Core × Input)}

theorem Run.balances (run : Run c later m) (kept : ∀ e ∈ later, ¬e.1.Resets e.2) :
    responses c.actions ++ answered later =
      responses (handed later) ++ responses m.actions := by
  induction run with
  | start => exact List.append_nil _
  | @next past d run input ih =>
    obtain ⟨before, last⟩ := List.forall_mem_append.mp kept
    have step := (d.step_turns input).balances (last _ (.head _))
    calc responses c.actions ++ answered (past ++ [(d, input)])
      _ = (responses c.actions ++ answered past) ++ d.answers input := by
        rw [answered, List.flatMap_append, List.flatMap_singleton, List.append_assoc]
        rfl
      _ = responses (handed past) ++ (responses d.actions ++ d.answers input) := by
        rw [ih before, List.append_assoc]
      _ = responses (handed past) ++ responses (d.hands input) ++
          responses (d.step input).actions := by rw [step, List.append_assoc]
      _ = responses (handed (past ++ [(d, input)])) ++ responses (d.step input).actions := by
        rw [← responses_append, handed, handed, List.flatMap_append, List.flatMap_singleton]

theorem Core.responses_reset {c : Core} {input : Input} (resets : c.Resets input) :
    responses (c.step input).actions = [] := by
  cases input with
  | packet packet =>
    have gone : packet.code = EventCode.disconnectionComplete := resets
    simp only [step, onPacket, gone, if_true]
    rfl
  | tick =>
    have late : (c.connectTimeout.tick c.tick).phase = .expired := resets
    simp only [step, onTick, late, if_true]
    rfl
  | resetLink => rfl
  | setHandles | nextAction | feed | clearPool | serve => exact absurd resets id

/-- A request has five bytes and then the value, of which no more is echoed than is announced. -/
theorem Core.answers_packet (c : Core) {packet : EventPacket}
    {connLow connHigh attrLow attrHigh length : UInt8} {rest : List UInt8}
    (asks : packet.vendorCode.bind VendorEvent.ofCode? = some .writePermitRequest)
    (data : packet.vendorData = connLow :: connHigh :: attrLow :: attrHigh :: length :: rest)
    (room : c.HasRoom (.packet packet)) :
    c.answers (.packet packet) = [.writeResponse (Word.join connHigh connLow)
      (Word.join attrHigh attrLow) (rest.take (min maxChunkLength length.toNat))] := by
  rw [answers, if_pos room, Input.permit?, if_pos asks, data, ← List.take_take]
  rfl

/-- The response to a request echoes the connection, the attribute and as much of the value as is
announced, is there and fits a chunk. Up to a reset, the responses that are taken and those that
still wait are those that waited before and then those to the requests that were met with room, each
once and in turn. A reset leaves none. -/
theorem Core.permits_answered (c : Core) :
    (∀ (packet : EventPacket) (connLow connHigh attrLow attrHigh length : UInt8)
      (rest : List UInt8), packet.vendorCode.bind VendorEvent.ofCode? = some .writePermitRequest →
      packet.vendorData = connLow :: connHigh :: attrLow :: attrHigh :: length :: rest →
      c.HasRoom (.packet packet) →
      c.answers (.packet packet) = [.writeResponse (Word.join connHigh connLow)
        (Word.join attrHigh attrLow) (rest.take (min maxChunkLength length.toNat))]) ∧
    (∀ (later : List (Core × Input)) (m : Core), Run c later m →
      (∀ e ∈ later, ¬e.1.Resets e.2) →
      responses c.actions ++ answered later =
        responses (handed later) ++ responses m.actions) ∧
    ∀ input, c.Resets input → responses (c.step input).actions = [] :=
  ⟨fun _ _ _ _ _ _ _ asks data room => c.answers_packet asks data room,
    fun _ _ run kept => run.balances kept, fun _ resets => responses_reset resets⟩

/-- The first value leads to a reply as well; it and the response to the first request have been
taken when the third request is met, and the others are dropped by a reset. -/
theorem Core.permits_answered_three :
    let c := [.packet Input.connected, .subscribed].foldl step (create .standard)
    let asks := Input.event EventCode.vendor
      [0x13, 0x0C, 0x01, 0x08, 0x01, 0x00, 0x09, 0x00, 0x00, 0x00]
    let inputs : List Input :=
      [.packet asks, .asked [0x2A], .nextAction, .nextAction, .asked [0x2B]]
    let m := inputs.foldl step c
    (c.HasRoom (.packet asks) ∧
      c.answers (.packet asks) = [.writeResponse 0x0801 0x0001 [0x00, 0x00, 0x00]]) ∧
    (Run c (c.trace inputs) m ∧ (∀ e ∈ c.trace inputs, ¬e.1.Resets e.2) ∧
      responses c.actions ++ answered (c.trace inputs) =
        responses (handed (c.trace inputs)) ++ responses m.actions) ∧
    handed (c.trace inputs) = [.notify [0x00, 0x00, 0x00, 0x00, 0x04, 0x00, 0x00, 0x00, 0x00],
      .writeResponse 0x0801 0x0001 [0x00, 0x00, 0x00]] ∧
    responses m.actions =
      [.writeResponse 0x0801 0x0001 [0x2A], .writeResponse 0x0801 0x0001 [0x2B]] ∧
    m.Resets .resetLink ∧ responses (m.step .resetLink).actions = [] := by
  intro c asks inputs m
  have room : c.HasRoom (.packet asks) := by decide +kernel
  have run : Run c (c.trace inputs) m := Run.start.script inputs
  have kept : ∀ e ∈ c.trace inputs, ¬e.1.Resets e.2 := by decide +kernel
  exact ⟨⟨room, c.permits_answered.1 asks _ _ _ _ _ _ rfl rfl room⟩,
    ⟨run, kept, c.permits_answered.2.1 _ _ run kept⟩, by decide +kernel, by decide +kernel,
    trivial, m.permits_answered.2.2 .resetLink trivial⟩

/-- Five requests are met before an action is taken, and the fifth is never answered. -/
theorem Core.permit_unanswered :
    let c := Core.create .standard
    let inputs : List Input := List.replicate 5 (.asked [0x2A]) ++ List.replicate 6 .nextAction
    let m := inputs.foldl step c
    Run c (c.trace inputs) m ∧ (∀ e ∈ c.trace inputs, ¬e.1.Resets e.2) ∧
    inputs.filterMap Input.permit? = List.replicate 5 ⟨0x0801, 0x0001, [0x2A]⟩ ∧
    handed (c.trace inputs) = List.replicate 4 (.writeResponse 0x0801 0x0001 [0x2A]) ∧
    m.actions = [] := by
  intro c inputs m
  exact ⟨Run.start.script inputs, by decide +kernel, by decide +kernel, by decide +kernel,
    by decide +kernel⟩

end CardLink.Legacy
