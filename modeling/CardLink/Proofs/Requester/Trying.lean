import CardLink.Proofs.Requester.Rest
import CardLink.Proofs.Requester.Spending

namespace CardLink

def PlatformAct.frame? : PlatformAct → Option (List UInt8)
  | wrote frame | refused frame => some frame
  | switchedRadio _ | paused _ => none

/-- The frames that were to be written, the platform's refusals among them, the oldest first. -/
def Platform.tried (p : Platform) : List (List UInt8) :=
  p.log.reverse.filterMap PlatformAct.frame?

theorem Platform.tried_of_log {p after : Platform} {acts : List PlatformAct}
    (log : after.log = acts ++ p.log) :
    after.tried = p.tried ++ acts.reverse.filterMap PlatformAct.frame? := by
  rw [tried, log, List.reverse_append, List.filterMap_append]
  rfl

namespace Requester

variable {σ : Type} {r : Requester} {listener : Listener σ} {request : Request} {p : Platform}
  {s : σ}

/-- Only a request that is too long for a frame is called malformed. -/
theorem ask_short (short : request.params.length ≤ 255) :
    (r.ask listener request p s).1 ≠ .error .malformed := by
  have built : Frame.build request.opcode request.params = .ok request.frame :=
    if_neg (Nat.not_lt.mpr short)
  simp only [ask, issue, built]
  split
  · rename_i failed
    split at failed
    · cases failed
      exact fun same => by cases same
    · split at failed <;> cases failed
      exact fun same => by cases same
  · exact fun failed => Bool.false_ne_true (wait_answer failed).symm

theorem Resting.ask_tried {size period : Nat} (resting : r.Resting size period)
    (positive : 0 < size) (short : request.params.length ≤ 255) :
    (r.ask listener request p s).2.2.1.tried = p.tried ++ [request.frame] := by
  have free := (resting.ask_answer positive listener request p s).1
  have formed : (r.ask listener request p s).1 ≠ .error .malformed := ask_short short
  rw [Platform.tried_of_log (r.ask_log listener request p s)]
  congr 1
  unfold Request.acts
  split
  · rfl
  · rename_i answer
    exact absurd answer free
  · rename_i answer
    exact absurd answer formed
  · rfl

end Requester

end CardLink
