import CardLink.Proofs.Controller.Writing
import CardLink.Proofs.Legacy.Retrying

namespace CardLink

open Controller (writeFrame Written)
open Legacy (Update)
open Legacy.Link (Updated)

variable {attempts : UInt16}

/-- A policy that bounds the retries below the largest count bounds those of both links: what is
refused is tried again, after one wait each time, until the retries are used up. Anything else that
comes of a try ends it. -/
theorem retries_bounded (below : attempts.toNat < 65535) (backoff : UInt32) :
    (∀ (frame : List UInt8) (p : Platform), ∃ tries last,
      Bounded attempts.toNat WriteError.transient tries last ∧
      Written backoff frame p (writeFrame (.bounded attempts backoff) frame 0 p) tries last) ∧
    ∀ l : Legacy.Link, l.Rests → l.settings.legacyRetry = .bounded attempts backoff →
      ∀ (service handle : UInt16) (value : List UInt8), ∃ last,
        Bounded attempts.toNat Update.refused (l.valueUpdates service handle value) last ∧
        Updated backoff l (l.updateCharValue service handle value)
          (l.valueUpdates service handle value) last := by
  constructor
  · intro frame p
    obtain ⟨tries, last, retried, written⟩ :=
      Controller.writeFrame_retried attempts backoff frame 0 p
    exact ⟨tries, last, retried.bounded below (Nat.zero_le _), written⟩
  · intro l rests policy service handle value
    obtain ⟨last, retried, updated⟩ :=
      Legacy.Link.updateCharValue_retried rests policy service handle value
    exact ⟨last, retried.bounded below (Nat.zero_le _), updated⟩

/-- Two retries: a frame is taken at the second one, and a value is refused for good. -/
theorem retries_bounded_two :
    let frame := [0x01, 0x03, 0x0C, 0x00]
    let p : Platform := { outcomes := List.replicate 2 (some .insufficientResources) }
    let full : ReplyRule := ⟨0xFD06, [.hci [0x04, 0x0E, 0x04, 0x01, 0x06, 0xFD, 0x64]]⟩
    let l := Legacy.Link.create { Settings.standard with legacyRetry := .bounded 2 1000 }
      [1, 2, 3, 4] { rules := List.replicate 4 full }
    ((2 : UInt16).toNat < 65535 ∧ l.Rests ∧ l.settings.legacyRetry = .bounded 2 1000) ∧
    (writeFrame (.bounded 2 1000) frame 0 p).1 = .ok () ∧
    (∃ tries last, Bounded 2 WriteError.transient tries last ∧
      Written 1000 frame p (writeFrame (.bounded 2 1000) frame 0 p) tries last) ∧
    (l.valueUpdates 0x40 0x50 [0x2A]).length = 3 ∧
    ∃ last, Bounded 2 Update.refused (l.valueUpdates 0x40 0x50 [0x2A]) last ∧
      Updated 1000 l (l.updateCharValue 0x40 0x50 [0x2A])
        (l.valueUpdates 0x40 0x50 [0x2A]) last := by
  intro frame p full l
  have below : (2 : UInt16).toNat < 65535 := by decide
  have rests : l.Rests := (Legacy.Link.Reachable.create _).rests
  have policy : l.settings.legacyRetry = .bounded 2 1000 := rfl
  have bounded := retries_bounded below 1000
  have taken : (writeFrame (.bounded 2 1000) frame 0 p).1 = .ok () := by
    rw [Controller.writeFrame_again rfl rfl, Controller.writeFrame_again rfl rfl,
      Controller.writeFrame_ended]
    · rfl
    · exact fun refused : Except.ok () = Except.error _ => nomatch refused
  exact ⟨⟨below, rests, policy⟩, taken, bounded.1 frame p, by decide +kernel,
    bounded.2 l rests policy 0x40 0x50 [0x2A]⟩

/-- With the largest count as the bound, neither link gives up on a refusal. -/
theorem retries_unbounded (backoff : UInt32) :
    (∀ (frame : List UInt8) (p : Platform),
      (writeFrame (.bounded 0xFFFF backoff) frame 0 p).1 ≠ .error .insufficientResources) ∧
    ∀ l : Legacy.Link, l.Rests → l.settings.legacyRetry = .bounded 0xFFFF backoff →
      ∀ (service handle : UInt16) (value : List UInt8), ∃ last,
        last ∈ l.valueUpdates service handle value ∧ last.refused = false ∧
        (l.updateCharValue service handle value).1 = last.outcome := by
  constructor
  · intro frame p full
    obtain ⟨tries, last, retried, written⟩ := Controller.writeFrame_retried 0xFFFF backoff frame 0 p
    rw [← WriteError.transient_iff, written.result, retried.unbounded] at full
    cases full
  · intro l rests policy service handle value
    obtain ⟨last, retried, updated⟩ :=
      Legacy.Link.updateCharValue_retried rests policy service handle value
    exact ⟨last, retried.last_mem, retried.unbounded, updated.result⟩

/-- A frame is refused as often as the policy says and once more, and is written again. -/
theorem retries_past_bound :
    let frame := [0x01, 0x03, 0x0C, 0x00]
    let p : Platform := { outcomes := List.replicate 65536 (some .insufficientResources) }
    ∃ tries, Written 1000 frame p (writeFrame (.bounded 0xFFFF 1000) frame 0 p) tries (.ok ()) ∧
      65536 < tries.length := by
  intro frame p
  obtain ⟨tries, last, retried, written⟩ := Controller.writeFrame_retried 0xFFFF 1000 frame 0 p
  have results : p.results =
      List.replicate 65536 (.error .insufficientResources) ++ [.ok ()] := by
    simp only [Platform.results, p, List.map_replicate]
  have taken := retried.unbounded
  have unrefused : last ≠ .error .insufficientResources := by
    rintro rfl
    cases taken
  have outcome : last = .ok () := by
    have member := results ▸ written.scripted.subset retried.last_mem
    rcases List.mem_append.mp member with refused | ended
    · exact absurd (List.eq_of_mem_replicate refused) unrefused
    · exact List.mem_singleton.mp ended
  refine ⟨tries, outcome ▸ written, Nat.lt_of_not_le fun short => ?_⟩
  have within := List.prefix_of_prefix_length_le (results ▸ written.scripted)
    (List.prefix_append _ _) (by rwa [List.length_replicate])
  exact unrefused (List.eq_of_mem_replicate (within.subset retried.last_mem))

end CardLink
