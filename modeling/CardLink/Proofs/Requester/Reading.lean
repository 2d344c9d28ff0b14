import CardLink.Requester

namespace CardLink

inductive Reading where
  /-- Not a whole event packet. -/
  | malformed
  /-- A packet that the request does not wait for. -/
  | unsolicited
  /-- A packet about the request that leaves it open. -/
  | undecided
  | decided (answer : Except CommandError (List UInt8))

namespace Request

/-- A command status with the opcode of the request. Where a completion is expected, none follows
a good status that comes with a free command slot. -/
def readStatus (request : Request) (status credits : UInt8) (params : List UInt8) : Reading :=
  if request.expect = .commandStatus then .decided (.ok (params.take request.room))
  else if status ≠ 0 then .decided (.error (.controller status))
  else if request.expect = .commandComplete ∧ 0 < credits then
    .decided (.ok ([status].take request.room))
  else .undecided

def readParams (request : Request) (code : UInt8) (params : List UInt8) : Reading :=
  if code = 0x0E then
    match params with
    | _ :: low :: high :: result =>
      if Word.join high low = request.opcode then .decided (.ok (result.take request.room))
      else .unsolicited
    | _ => .unsolicited
  else if code = 0x0F then
    match params with
    | status :: credits :: low :: high :: _ =>
      if Word.join high low = request.opcode then request.readStatus status credits params
      else .unsolicited
    | _ => .unsolicited
  else if code = 0x10 then .decided (.error (.hardware (params.head?.getD 0)))
  else if code = 0x3E then
    if request.expect = .leMeta (params.head?.getD 0) then
      .decided (.ok ((params.drop 1).take request.room))
    else .unsolicited
  else .unsolicited

def read (request : Request) (raw : List UInt8) : Reading :=
  match raw with
  | type :: code :: length :: params =>
    if type = 0x04 ∧ length.toNat = params.length then request.readParams code params
    else .malformed
  | _ => .malformed

end Request

/-- What a verdict on the reply queue says of the packet. -/
def Verdict.reading : Verdict → Reading
  | done reply => .decided (.ok reply)
  | failed error => .decided (.error error)
  | keepWaiting => .undecided

namespace Request

/-- What the requester makes of a whole packet: those that are not replies go to the listener. -/
def reading (request : Request) (packet : EventPacket) : Reading :=
  if request.isReply packet then (request.judge packet).reading else .unsolicited

variable {type code length : UInt8} {params : List UInt8}

theorem reading_complete (request : Request) :
    request.reading ⟨type :: 0x0E :: length :: params⟩ = request.readParams 0x0E params := by
  have kind : EventPacket.kind ⟨type :: 0x0E :: length :: params⟩ = .commandComplete := rfl
  have shape : EventPacket.params ⟨type :: 0x0E :: length :: params⟩ = params := rfl
  simp only [reading, isReply, judge, readParams, kind, shape, EventPacket.opcode,
    EventPacket.returnParams, if_true]
  match params with
  | [] | [_] | [_, _] => rfl
  | credits :: low :: high :: result =>
    by_cases same : Word.join high low = request.opcode
    · simp [Word.littleAt?, same, Verdict.reading]
    · simp [Word.littleAt?, same]

theorem judge_status (request : Request) (status credits low high : UInt8) (rest : List UInt8) :
    (request.judge ⟨type :: 0x0F :: length :: status :: credits :: low :: high :: rest⟩).reading =
      request.readStatus status credits (status :: credits :: low :: high :: rest) := by
  have judged : request.judge
      ⟨type :: 0x0F :: length :: status :: credits :: low :: high :: rest⟩ =
        if request.expect = .commandStatus then
          .done ((status :: credits :: low :: high :: rest).take request.room)
        else if status ≠ 0 then .failed (.controller status)
        else if request.expect = .commandComplete ∧ credits ≠ 0 then
          .done ([status].take request.room)
        else .keepWaiting := rfl
  have free : 0 < credits ↔ credits ≠ 0 := UInt8.pos_iff_ne_zero
  rw [judged]
  simp only [readStatus, free]
  by_cases expected : request.expect = .commandStatus
  · rw [if_pos expected, if_pos expected]
    rfl
  rw [if_neg expected, if_neg expected]
  by_cases bad : status ≠ 0
  · rw [if_pos bad, if_pos bad]
    rfl
  rw [if_neg bad, if_neg bad]
  split <;> rfl

theorem reading_status (request : Request) :
    request.reading ⟨type :: 0x0F :: length :: params⟩ = request.readParams 0x0F params := by
  match params with
  | [] | [_] | [_, _] | [_, _, _] => rfl
  | status :: credits :: low :: high :: rest =>
    have about : request.isReply
        ⟨type :: 0x0F :: length :: status :: credits :: low :: high :: rest⟩ =
          (some (Word.join high low) == some request.opcode) := rfl
    have read : request.readParams 0x0F (status :: credits :: low :: high :: rest) =
        if Word.join high low = request.opcode then
          request.readStatus status credits (status :: credits :: low :: high :: rest)
        else .unsolicited := rfl
    rw [reading, about, read, judge_status]
    by_cases same : Word.join high low = request.opcode
    · simp [same]
    · simp [same]

theorem reading_hardware (request : Request) :
    request.reading ⟨type :: 0x10 :: length :: params⟩ = request.readParams 0x10 params :=
  rfl

theorem reading_leMeta (request : Request) :
    request.reading ⟨type :: 0x3E :: length :: params⟩ = request.readParams 0x3E params := by
  have kind : EventPacket.kind ⟨type :: 0x3E :: length :: params⟩ =
      .leMeta (params.head?.getD 0) := rfl
  have carried : EventPacket.returnParams ⟨type :: 0x3E :: length :: params⟩ = params.drop 1 := rfl
  simp only [reading, isReply, judge, kind, carried, beq_iff_eq, Verdict.reading]
  rfl

/-- The two readings of a whole packet agree. -/
theorem reading_eq_readParams (request : Request) :
    request.reading ⟨type :: code :: length :: params⟩ = request.readParams code params := by
  by_cases complete : code = 0x0E
  · subst complete
    exact reading_complete request
  by_cases status : code = 0x0F
  · subst status
    exact reading_status request
  by_cases hardware : code = 0x10
  · subst hardware
    exact reading_hardware request
  by_cases lowEnergy : code = 0x3E
  · subst lowEnergy
    exact reading_leMeta request
  have same : EventPacket.code ⟨type :: code :: length :: params⟩ = code := rfl
  have kind : EventPacket.kind ⟨type :: code :: length :: params⟩ = .asynchronous := by
    simp only [EventPacket.kind, same, EventCode.commandComplete, EventCode.commandStatus,
      EventCode.hardwareError, EventCode.leMeta, complete, status, hardware, lowEnergy, if_false]
  simp [reading, isReply, readParams, kind, complete, status, hardware, lowEnergy]

theorem read_of_parsed (request : Request) {raw : List UInt8} {packet : EventPacket}
    (parsed : EventPacket.parse raw = .ok packet) :
    packet = ⟨raw⟩ ∧ request.read raw = request.reading packet := by
  unfold EventPacket.parse at parsed
  split at parsed
  · split at parsed
    · rename_i whole
      cases parsed
      exact ⟨rfl, (if_pos whole).trans (reading_eq_readParams request).symm⟩
    · cases parsed
  · cases parsed

theorem read_of_refused (request : Request) {raw : List UInt8} {error : CommandError}
    (refused : EventPacket.parse raw = .error error) : request.read raw = .malformed := by
  match raw with
  | [] | [_] | [_, _] => rfl
  | type :: code :: length :: params =>
    refine if_neg fun whole => ?_
    have parsed : EventPacket.parse (type :: code :: length :: params) =
        .ok ⟨type :: code :: length :: params⟩ := if_pos whole
    rw [parsed] at refused
    cases refused

end Request

end CardLink
