import CardLink.Proofs.Requester.Agreement

namespace CardLink

variable {σ : Type}

/-- A relation that the state of the listener is in with itself, and then with what each event
makes of it. -/
structure Listener.Keeps (listener : Listener σ) (R : σ → σ → Prop) : Prop where
  refl : ∀ s, R s s
  trans : ∀ {s t u}, R s t → R t u → R s u
  packet : ∀ packet s, R s (listener.packet packet s)
  tick : ∀ s, R s (listener.tick s)
  unrouted : ∀ event s, R s (listener.unrouted event s)

/-- The failures of a request whose command was not written. -/
def CommandError.unwritten : CommandError → Bool
  | .busy | .malformed | .link _ => true
  | .timeout | .controller _ | .hardware _ | .poolExhausted => false

namespace Requester

variable {listener : Listener σ} {R : σ → σ → Prop}

theorem drainList_keeps (keeps : listener.Keeps R) (slots : List Nat) (pool : SlotPool) (s : σ) :
    R s (drainList listener slots pool s).2 := by
  induction slots generalizing pool s with
  | nil => exact keeps.refl s
  | cons slot rest ih => exact keeps.trans (keeps.packet _ s) (ih _ _)

theorem deliver_keeps (keeps : listener.Keeps R) (r : Requester) (raw : List UInt8) (s : σ) :
    R s (r.deliver listener raw s).2.2 := by
  unfold deliver
  split
  · exact keeps.refl s
  · split
    · exact keeps.refl s
    · exact drainList_keeps keeps _ _ s

theorem route_keeps (keeps : listener.Keeps R) (r : Requester) (request : Request) (slot : Nat)
    (s : σ) : R s (r.route listener request slot s).2.2 := by
  simp only [route]
  split <;> exact drainList_keeps keeps _ _ s

theorem wait_keeps (keeps : listener.Keeps R) (request : Request) (events : List PlatformEvent)
    (r : Requester) (s : σ) : R s (wait listener request events r s).state := by
  induction events generalizing r s with
  | nil => exact keeps.refl s
  | cons event rest ih =>
    cases event with
    | tick =>
      simp only [wait]
      split
      · exact keeps.tick s
      · exact keeps.trans (keeps.tick s) (ih _ _)
    | hci raw =>
      simp only [wait]
      split
      · exact ih _ _
      · rename_i slot pool _
        have routed := route_keeps keeps { r with pool := pool } request slot s
        split <;> rename_i route <;> rw [route] at routed
        · exact routed
        · exact routed
        · exact keeps.trans routed (ih _ _)
    | usb report => exact keeps.trans (keeps.unrouted _ s) (ih _ _)
    | other => exact keeps.trans (keeps.unrouted _ s) (ih _ _)

theorem ask_keeps (keeps : listener.Keeps R) (r : Requester) (request : Request) (p : Platform)
    (s : σ) : R s (r.ask listener request p s).2.2.2 := by
  unfold ask
  split
  · exact keeps.refl s
  · exact wait_keeps keeps request _ _ s

end Requester

theorem Request.judge_failed {request : Request} {packet : EventPacket} {error : CommandError}
    (failed : request.judge packet = .failed error) : error.unwritten = false := by
  unfold judge at failed
  split at failed
  · dsimp only at failed
    split at failed
    · cases failed
    · split at failed
      · cases failed
        rfl
      · split at failed <;> cases failed
  · cases failed
  · cases failed
  · cases failed
    rfl
  · cases failed

namespace Requester

/-- A command that is waited for has been written. -/
theorem wait_answer {listener : Listener σ} {request : Request} {events : List PlatformEvent}
    {r : Requester} {s : σ} {error : CommandError}
    (failed : (wait listener request events r s).answer = .error error) :
    error.unwritten = false := by
  induction events generalizing r s with
  | nil =>
    cases failed
    rfl
  | cons event rest ih =>
    cases event with
    | tick =>
      simp only [wait] at failed
      split at failed
      · cases failed
        rfl
      · exact ih failed
    | hci raw =>
      simp only [wait] at failed
      split at failed
      · exact ih failed
      · split at failed
        · cases failed
        · rename_i route
          cases failed
          simp only [Requester.route] at route
          split at route
          · cases route
          · exact Request.judge_failed (Prod.mk.inj route).1
        · exact ih failed
    | usb report => exact ih failed
    | other => exact ih failed

end Requester

/-- What the controller has got of a request with this answer. -/
def Request.written (request : Request) : Except CommandError (List UInt8) → List (List UInt8)
  | .ok _ => [request.frame]
  | .error error => if error.unwritten then [] else [request.frame]

theorem Request.opcode_frame (request : Request) : Frame.opcode request.frame = request.opcode :=
  Word.join_split request.opcode

theorem Request.opcode_of_written {request : Request} {answer : Except CommandError (List UInt8)}
    {frame : List UInt8} (written : frame ∈ request.written answer) :
    Frame.opcode frame = request.opcode := by
  unfold Request.written at written
  split at written
  · rw [List.mem_singleton.mp written, request.opcode_frame]
  · split at written
    · cases written
    · rw [List.mem_singleton.mp written, request.opcode_frame]

theorem Platform.accept_frames (p : Platform) (frame : List UInt8) :
    (p.accept frame).frames = p.frames ++ [frame] := by
  have logged (q : Platform) (log : q.log = .wrote frame :: p.log) :
      q.frames = p.frames ++ [frame] := by
    simp [frames, log]
  unfold accept
  dsimp only
  split
  · exact logged _ rfl
  · split <;> exact logged _ rfl

theorem Platform.send_frames (p : Platform) (frame : List UInt8) :
    (∃ error after, p.send frame = (.error error, after) ∧ after.frames = p.frames) ∨
      ∃ after, p.send frame = (.ok (), after) ∧ after.frames = p.frames ++ [frame] := by
  match outcomes : p.outcomes with
  | [] => exact .inr ⟨_, by simp only [send, outcomes], p.accept_frames frame⟩
  | none :: rest =>
    exact .inr ⟨_, by simp only [send, outcomes], accept_frames { p with outcomes := rest } frame⟩
  | some error :: rest =>
    refine .inl ⟨error, { p with outcomes := rest, log := .refused frame :: p.log }, ?_, ?_⟩
    · simp only [send, outcomes]
    · simp [frames]

/-- Only a command that is issued gets to the controller. -/
theorem Requester.issue_frames (r : Requester) (request : Request) (p : Platform) :
    (∃ error after, r.issue request p = (.error error, after) ∧ error.unwritten = true ∧
      after.frames = p.frames) ∨
    ∃ issued after, r.issue request p = (.ok issued, after) ∧
      after.frames = p.frames ++ [request.frame] := by
  unfold issue
  by_cases busy : r.busy = true
  · exact .inl ⟨.busy, p, if_pos busy, rfl, rfl⟩
  · rw [if_neg busy]
    by_cases long : 255 < request.params.length
    · exact .inl ⟨.malformed, p, by rw [Frame.build, if_pos long], rfl, rfl⟩
    · have built : Frame.build request.opcode request.params = .ok request.frame := if_neg long
      rw [built]
      rcases p.send_frames request.frame with ⟨error, after, send, frames⟩ | ⟨after, send, frames⟩
      · exact .inl ⟨.link error, after, by simp only [send], rfl, frames⟩
      · exact .inr ⟨_, after, by simp only [send]; rfl, frames⟩

/-- A request adds what it has written to the frames of the platform, and nothing else. -/
theorem Requester.ask_frames (r : Requester) (listener : Listener σ) (request : Request)
    (p : Platform) (s : σ) : (r.ask listener request p s).2.2.1.frames =
      p.frames ++ request.written (r.ask listener request p s).1 := by
  rcases r.issue_frames request p with
    ⟨error, after, issue, unwritten, frames⟩ | ⟨issued, after, issue, frames⟩
  · simp only [ask, issue, Request.written, unwritten, if_true, List.append_nil]
    exact frames
  · simp only [ask, issue]
    cases answer : (wait listener request after.queue issued s).answer with
    | ok reply => exact frames
    | error error =>
      simp only [Request.written, wait_answer answer, Bool.false_eq_true, if_false]
      exact frames

end CardLink
