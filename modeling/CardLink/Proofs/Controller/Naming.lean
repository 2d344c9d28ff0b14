import CardLink.Proofs.Controller.FlowControl
import CardLink.Proofs.Controller.Posting

namespace CardLink.Controller.Core

open Exchange

/-- A sequence goes on, or is entered. -/
def Sequences (effect : Effect) : Prop := effect = .sequenced ∨ effect = .disconnected

/-- The values that have been queued since are all the name of the device. -/
def OnlyNames (c after : Core) : Prop :=
  ∃ names, after.notices = c.notices ++ names ∧ ∀ value ∈ names, value = c.name

variable {c : Core}

theorem onlyNames_of_same {d : Core} (same : d.notices = c.notices) : c.OnlyNames d :=
  ⟨[], same.trans (List.append_nil _).symm, nofun⟩

theorem OnlyNames.trans {d after : Core} (first : c.OnlyNames d) (named : d.name = c.name)
    (second : d.OnlyNames after) : c.OnlyNames after := by
  obtain ⟨names, queued, own⟩ := first
  obtain ⟨more, later, same⟩ := second
  refine ⟨names ++ more, by rw [later, queued, List.append_assoc], fun value member => ?_⟩
  rcases List.mem_append.mp member with old | new
  · exact own value old
  · exact (same value new).trans named

/-- The only values that a sequence writes are the name. -/
theorem Sequenced.names {after : Core} (sequenced : c.Sequenced after) : c.OnlyNames after := by
  obtain ⟨f, command?, params, rfl, carries⟩ := sequenced
  cases command? with
  | none => exact onlyNames_of_same rfl
  | some command =>
    rcases send_notices (c.placed f) command params with same | ⟨update, more⟩
    · exact onlyNames_of_same same
    · refine ⟨[params.drop 6], more, fun value member => ?_⟩
      exact (List.mem_singleton.mp member).trans ((carries command rfl).value update)

theorem onAdvertisingSwitched_names (alone : c.connection.isConnected = false) :
    c.OnlyNames c.onAdvertisingSwitched := by
  simp only [onAdvertisingSwitched, alone, Bool.false_eq_true, if_false]
  split
  · split
    · exact (onlyNames_of_same rfl).trans rfl (startAdvertising_sequenced _).names
    · exact onlyNames_of_same rfl
  · exact onlyNames_of_same rfl

theorem onCommandComplete_names {packet : EventPacket}
    (sequenced : c.completionEffect packet = .sequenced) :
    c.OnlyNames (c.onCommandComplete packet) := by
  unfold onCommandComplete
  match answered : packet.opcode with
  | none => exact onlyNames_of_same rfl
  | some opcode =>
    cases phase : c.phase with
    | initializing =>
      dsimp only
      split
      · exact (c.stepInit_sequenced _).names
      · exact onlyNames_of_same rfl
    | configuringAdvertising =>
      dsimp only
      split
      · exact c.stepAdvertising_sequenced.names
      · exact onlyNames_of_same rfl
    | failed => exact onlyNames_of_same rfl
    | idle | ready =>
      simp only [completionEffect, answered, phase, reduceCtorEq, or_true, or_false, if_true]
        at sequenced
      split at sequenced
      · cases sequenced
      · rename_i unacknowledged
        split at sequenced
        · cases sequenced
        · rename_i unnotified
          simp only [unacknowledged, unnotified, if_false]
          split at sequenced
          · rename_i switched
            rw [if_pos switched]
            split at sequenced
            · split at sequenced
              · cases sequenced
              · rename_i alone
                exact onAdvertisingSwitched_names (Bool.eq_false_iff.mpr alone)
            · cases sequenced
          · cases sequenced

/-- The completion of a command is what it says. -/
theorem effect_completed {input : Input} (completed : c.effect input = .sequenced ∨
      c.effect input = .writeAcknowledged) : ∃ packet,
    c.step input = c.onCommandComplete packet ∧ c.effect input = c.completionEffect packet := by
  cases input with
  | packet packet =>
    refine ⟨packet, ?_⟩
    simp only [Core.effect, packetEffect] at completed
    simp only [step, onPacket, Core.effect, packetEffect]
    rcases completed with completed | completed <;>
      grind [leEffect, vendorEffect, modificationEffect, permitEffect]
  | resetPairings =>
    simp only [Core.effect] at completed
    split at completed <;> simp at completed
  | _ => simp [Core.effect] at completed

theorem queuedBy_names {input : Input} (sequences : Sequences (c.effect input)) :
    ∀ value ∈ c.queuedBy input, value = c.name := by
  have names : c.OnlyNames (c.step input) := by
    rcases sequences with sequenced | gone
    · obtain ⟨packet, reached, same⟩ := effect_completed (.inl sequenced)
      rw [reached]
      exact onCommandComplete_names (same.symm.trans sequenced)
    · obtain ⟨params, reason, reached⟩ := effect_disconnected gone
      rw [reached]
      simp only [onDisconnect, reason, if_false]
      exact (onlyNames_of_same rfl).trans rfl (startAdvertising_sequenced _).names
  obtain ⟨names, queued, own⟩ := names
  rw [queuedBy, queued_append queued]
  exact own

end CardLink.Controller.Core
