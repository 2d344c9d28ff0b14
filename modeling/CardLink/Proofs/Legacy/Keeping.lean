import CardLink.Legacy.Link
import CardLink.Proofs.Framing.Sending
import CardLink.Proofs.Requester.Listening

namespace CardLink

/-- The tag of an error reply is none of those that a message or its control has. -/
theorem Endpoint.errorReply_tag {e : Endpoint .legacy} {error : ChunkError} {reply : List UInt8}
    (reported : e.errorReply error = some reply) : Chunk.tag? .legacy reply ≠ some .apdu := by
  cases reported
  exact nofun

namespace Legacy.Core

/-- Neither the held reply nor a notification that is queued is a part of a message. -/
structure Controls (c : Core) : Prop where
  held : ∀ reply, c.endpoint.held = some reply → Chunk.tag? .legacy reply ≠ some .apdu
  queued : ∀ chunk, .notify chunk ∈ c.actions → Chunk.tag? .legacy chunk ≠ some .apdu

/-- The same chunks are still to be cut off; the send may have been cancelled, not begun. No part of
a message has been held back or queued. -/
structure KeepsSend (c after : Core) : Prop where
  endpoint : c.endpoint.KeepsSend after.endpoint
  controls : c.Controls → after.Controls

theorem KeepsSend.of_eq {c after : Core} (endpoint : after.endpoint = c.endpoint)
    (actions : after.actions = c.actions) : c.KeepsSend after where
  endpoint := endpoint ▸ .refl c.endpoint
  controls safe := ⟨endpoint ▸ safe.held, actions ▸ safe.queued⟩

theorem KeepsSend.trans {a b c : Core} (first : a.KeepsSend b) (second : b.KeepsSend c) :
    a.KeepsSend c where
  endpoint := first.endpoint.trans second.endpoint
  controls safe := second.controls (first.controls safe)

/-- The endpoint may change alone, as long as it holds no part of a message back. -/
theorem KeepsSend.of_endpoint {c : Core} {endpoint : Endpoint .legacy}
    (keeps : c.endpoint.KeepsSend endpoint)
    (held : ∀ reply, endpoint.held = some reply →
      c.endpoint.held = some reply ∨ Chunk.tag? .legacy reply ≠ some .apdu) :
    c.KeepsSend { c with endpoint := endpoint } where
  endpoint := keeps
  controls safe := ⟨fun reply same => (held reply same).elim (safe.held reply) id, safe.queued⟩

theorem push_keepsSend (c : Core) {action : Action}
    (control : ∀ chunk, action = .notify chunk → Chunk.tag? .legacy chunk ≠ some .apdu) :
    c.KeepsSend (c.push action) := by
  unfold push
  split
  · refine ⟨.refl _, fun safe => ⟨safe.held, fun chunk queued => ?_⟩⟩
    rcases List.mem_append.mp queued with queued | added
    · exact safe.queued chunk queued
    · exact control chunk (List.mem_singleton.mp added).symm
  · exact .of_eq rfl rfl

theorem feed_keepsSend (c : Core) (chunk : List UInt8) : c.KeepsSend (c.feed chunk) := by
  have keeps := c.endpoint.receive_keepsSend chunk
  obtain ⟨control, held⟩ := c.endpoint.receive_reply chunk rfl
  unfold feed
  generalize c.endpoint.receive chunk = received at *
  obtain ⟨answer, endpoint⟩ := received
  have received : c.KeepsSend { c with endpoint := endpoint } := .of_endpoint keeps held
  split <;> rename_i shape <;> cases shape
  · refine received.trans (push_keepsSend _ fun chunk notified => ?_)
    cases notified
    exact control _ rfl
  · exact received.trans (.of_eq rfl rfl)
  · exact received
  · split
    · exact received
    · rename_i reply reported
      obtain ⟨now, later⟩ := endpoint.queueReply_control rfl (Endpoint.errorReply_tag reported)
      have queued := endpoint.queueReply_keepsSend reply
      split <;> rename_i shape <;> rw [shape] at now later queued
      · refine (received.trans (.of_endpoint queued later)).trans (push_keepsSend _ ?_)
        intro chunk notified
        cases notified
        exact now _ rfl
      · exact received.trans (.of_endpoint queued later)

theorem resetLink_keepsSend (c : Core) : c.KeepsSend c.resetLink where
  endpoint := c.endpoint.reset_keepsSend
  controls _ := ⟨nofun, nofun⟩

theorem restartLink_keepsSend (c : Core) : c.KeepsSend c.restartLink :=
  c.resetLink_keepsSend.trans (push_keepsSend _ nofun)

theorem onLeMeta_keepsSend (c : Core) (params : List UInt8) : c.KeepsSend (c.onLeMeta params) := by
  unfold onLeMeta
  split
  · split <;> exact .of_eq rfl rfl
  · exact .of_eq rfl rfl

theorem onWritePermit_keepsSend (c : Core) (data : List UInt8) :
    c.KeepsSend (c.onWritePermit data) := by
  unfold onWritePermit
  split
  · dsimp only
    split
    · exact (c.feed_keepsSend _).trans (push_keepsSend _ nofun)
    · exact push_keepsSend c nofun
  · exact .of_eq rfl rfl

theorem onVendor_keepsSend (c : Core) (packet : EventPacket) :
    c.KeepsSend (c.onVendor packet) := by
  unfold onVendor
  split
  · unfold onAttributeModified
    split
    · split <;> exact .of_eq rfl rfl
    · exact .of_eq rfl rfl
  · exact c.onWritePermit_keepsSend _
  · exact .of_eq rfl rfl
  · exact .of_eq rfl rfl

theorem listener_keeps : listener.Keeps KeepsSend where
  refl _ := .of_eq rfl rfl
  trans := .trans
  packet packet c := by
    simp only [listener, onPacket]
    split
    · exact c.restartLink_keepsSend
    · split
      · exact c.onLeMeta_keepsSend _
      · split
        · exact c.onVendor_keepsSend packet
        · exact .of_eq rfl rfl
  tick c := by
    simp only [listener, onTick]
    have ticked : c.KeepsSend { c with connectTimeout := c.connectTimeout.tick c.tick } :=
      .of_eq rfl rfl
    split
    · exact ticked.trans (restartLink_keepsSend _)
    · exact ticked
  unrouted _ _ := .of_eq rfl rfl

end Legacy.Core

namespace Legacy

variable {R : Core → Core → Prop}

theorem takeEvent_keeps (keeps : Core.listener.Keeps R) (event : PlatformEvent) (r : Requester)
    (c : Core) : R c (takeEvent event r c).2 := by
  cases event with
  | hci raw => exact Requester.deliver_keeps keeps r raw c
  | tick => exact keeps.tick c
  | usb report => exact keeps.unrouted (.usb report) c
  | other => exact keeps.unrouted .other c

theorem awaitPool_keeps (keeps : Core.listener.Keeps R) (events : List PlatformEvent)
    (r : Requester) (c : Core) : R c (awaitPool events r c).2.2.2 := by
  induction events generalizing r c with
  | nil =>
    simp only [awaitPool]
    split
    · exact keeps.refl c
    · split <;> exact keeps.refl c
  | cons event rest ih =>
    simp only [awaitPool]
    split
    · exact keeps.refl c
    · split
      · exact keeps.refl c
      · exact keeps.trans (takeEvent_keeps keeps event r c) (ih _ _)

end Legacy

end CardLink
