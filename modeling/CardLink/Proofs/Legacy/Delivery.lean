import CardLink.Proofs.Framing.RoundTrip
import CardLink.Proofs.Legacy.Transmission

namespace CardLink.Legacy

/-- What the owner of a link does with it. Any script may take the place of what is left of the
platform's one. -/
inductive Operation where
  | script (platform : Platform)
  | power (on : Bool)
  | setup
  | makeDiscoverable
  | processEvent
  | poll
  | send (data : List UInt8)

namespace Link

def operate (l : Link) : Operation → Link
  | .script platform => { l with platform := platform }
  | .power on => (l.power on).2
  | .setup => l.setup.2
  | .makeDiscoverable => l.makeDiscoverable.2
  | .processEvent => l.processEvent.2
  | .poll => l.poll.2
  | .send data => (l.send data).2

inductive Reachable (settings : Settings) (serial : List UInt8) : Link → Prop
  | create (platform : Platform) : Reachable settings serial (.create settings serial platform)
  | operate {l : Link} (reachable : Reachable settings serial l) (operation : Operation) :
      Reachable settings serial (l.operate operation)

theorem Reachable.operations {settings : Settings} {serial : List UInt8} {l : Link}
    (reachable : Reachable settings serial l) (operations : List Operation) :
    Reachable settings serial (operations.foldl Link.operate l) := by
  induction operations generalizing l with
  | nil => exact reachable
  | cons operation operations ih => exact ih (reachable.operate operation)

/-- Between two operations: nobody is sending, no transmit is on the stack, and no part of a message
waits. -/
structure Idle (l : Link) (settings : Settings) : Prop where
  layout : l.core.endpoint.layout = .legacy settings.legacyChunkLength
  free : l.core.endpoint.isSending = false
  unentered : l.core.endpoint.session.lock.depth = 0
  controls : l.core.Controls

variable {settings : Settings} {l after : Link}

theorem Idle.keeps (idle : l.Idle settings) (keeps : l.core.KeepsSend after.core) :
    after.Idle settings where
  layout := keeps.endpoint.layout.trans idle.layout
  free := by
    rw [← Bool.not_eq_true]
    intro sending
    have before := keeps.endpoint.unbegun sending
    rw [idle.free] at before
    cases before
  unentered := keeps.endpoint.depth.trans idle.unentered
  controls := keeps.controls idle.controls

theorem Idle.runActions (idle : l.Idle settings) : l.runActions.Idle settings :=
  idle.keeps (runActions_quiet idle.controls).keeps

/-- A message may be too long for an idle link, but is never in another one's way. -/
theorem Idle.not_busy (idle : l.Idle settings) (length : Nat) :
    (l.core.endpoint.beginSend length).1 ≠ .error .busy := by
  intro busy
  by_cases long : 65535 < length
  · rw [Endpoint.beginSend, if_pos long] at busy
    cases busy
  · rw [Endpoint.beginSend_ok idle.free (Nat.le_of_not_lt long)] at busy
    cases busy

theorem create_idle (settings : Settings) (serial : List UInt8) (platform : Platform) :
    (create settings serial platform).Idle settings :=
  ⟨rfl, rfl, rfl, nofun, nofun⟩

/-- The link once all of a message has gone out, or what did. -/
def finished (l : Link) (data : List UInt8) : Link :=
  let l := (sendChunks data (data.length + 1)
    (l.withEndpoint (l.core.endpoint.begun data.length))).2
  l.withEndpoint l.core.endpoint.finishSend

/-- A message that is not refused outright is transmitted, and then its send is over. -/
theorem send_cases (l : Link) (data : List UInt8) :
    (∃ error, l.send data = (.error error, l) ∧ l.sendUpdates data = []) ∨
      l.core.endpoint.isSending = false ∧
      l.send data = ((sendChunks data (data.length + 1)
        (l.withEndpoint (l.core.endpoint.begun data.length))).1,
          (l.finished data).flushDeferred.runActions) ∧
      l.sendUpdates data = chunkUpdates data (data.length + 1)
        (l.withEndpoint (l.core.endpoint.begun data.length)) ++ (l.finished data).replyUpdates := by
  unfold send sendUpdates
  rcases l.core.endpoint.beginSend_cases data.length with ⟨error, refused⟩ | ⟨free, begun⟩
  · rw [refused]
    exact .inl ⟨error, rfl, rfl⟩
  · rw [begun]
    exact .inr ⟨free, rfl, rfl⟩

theorem begun_logs (l : Link) (length : Nat) :
    l.Logs [] (l.withEndpoint (l.core.endpoint.begun length)) := withEndpoint_logs rfl rfl

theorem finishSend_logs (l : Link) : l.Logs [] (l.withEndpoint l.core.endpoint.finishSend) :=
  withEndpoint_logs rfl rfl

theorem Idle.finished (idle : l.Idle settings) (data : List UInt8) :
    l.Logs (chunkUpdates data (data.length + 1)
        (l.withEndpoint (l.core.endpoint.begun data.length))) (l.finished data) ∧
      (l.finished data).Idle settings := by
  have begun := l.begun_logs data.length
  have sent := (sendChunks_transmits data (data.length + 1) _).logs (begun.controls idle.controls)
  have logs := begun.trans (sent.trans (finishSend_logs _))
  rw [List.append_nil] at logs
  exact ⟨logs, logs.layout.trans idle.layout, rfl, rfl, logs.controls idle.controls⟩

/-- Whatever becomes of a message, its send is over in the end. -/
theorem Idle.send (idle : l.Idle settings) (data : List UInt8) :
    (l.send data).2.Idle settings ∧
      (l.send data).2.platform.updates =
        l.platform.updates ++ (l.sendUpdates data).flatMap Update.written := by
  rcases l.send_cases data with ⟨error, sent, updates⟩ | ⟨-, sent, updates⟩ <;> rw [sent, updates]
  · exact ⟨idle, (List.append_nil _).symm⟩
  · obtain ⟨logs, ended⟩ := idle.finished data
    have replies := replies_quiet ended.controls
    exact ⟨ended.keeps replies.keeps, (logs.trans replies.logs).logged⟩

theorem Idle.operate (idle : l.Idle settings) (operation : Operation) :
    (l.operate operation).Idle settings := by
  cases operation with
  | script platform => exact ⟨idle.layout, idle.free, idle.unentered, idle.controls⟩
  | power on => exact idle.keeps (l.power_quiet on).keeps
  | setup => exact idle.keeps l.setup_quiet.keeps
  | makeDiscoverable => exact idle.keeps (setupRun_quiet _ _ l).keeps
  | processEvent =>
    simp only [Link.operate, processEvent]
    split
    · exact idle
    · rename_i event rest _
      exact (idle.keeps (takeEvent_keeps Core.listener_keeps event l.requester l.core)).runActions
  | poll =>
    have polled := l.core.endpoint.takeComplete_keepsSend
    have held : l.core.endpoint.takeComplete.2.held = l.core.endpoint.held := by
      unfold Endpoint.takeComplete
      split <;> rfl
    exact idle.keeps (.of_endpoint polled fun reply same => .inl (held ▸ same))
  | send data => exact (idle.send data).1

theorem Reachable.idle {serial : List UInt8} (reachable : Reachable settings serial l) :
    l.Idle settings := by
  induction reachable with
  | create platform => exact create_idle settings serial platform
  | operate _ operation ih => exact ih.operate operation

/-- A send that succeeds has delivered the message. -/
theorem Idle.delivers (idle : l.Idle settings) (least : 6 ≤ settings.legacyChunkLength.toNat)
    (most : settings.legacyChunkLength.toNat ≤ maxChunkLength) {data : List UInt8}
    (short : data.length ≤ 65535) (done : (l.send data).1 = .ok ()) :
    Delivers (l.sendUpdates data)
      (Chunk.ofMessage settings.legacyChunkLength.toNat data) := by
  rcases l.send_cases data with ⟨error, sent, -⟩ | ⟨-, sent, updates⟩
  · rw [sent] at done
    cases done
  · rw [sent] at done
    have wide : l.core.endpoint.chunkLength = settings.legacyChunkLength.toNat := by
      rw [Endpoint.chunkLength, idle.layout]
      exact Nat.min_eq_left most
    have left : (l.core.endpoint.begun data.length).left data =
        Chunk.ofMessage settings.legacyChunkLength.toNat data :=
      (Endpoint.left_begun _ data rfl).trans (congrArg (Chunk.ofMessage · data) wide)
    have controls := (l.begun_logs data.length).controls idle.controls
    have underway : (l.core.endpoint.begun data.length).Underway data :=
      ⟨rfl, Nat.zero_le _, wide.symm ▸ least, fun _ => Nat.le_refl _⟩
    have transmits := sendChunks_transmits data (data.length + 1)
      (l.withEndpoint (l.core.endpoint.begun data.length))
    rw [done] at transmits
    have chunks := transmits.delivers controls underway short (Nat.le_refl _)
    have replies := (replies_quiet (idle.finished data).2.controls).control
    have whole := chunks.append (delivers_nothing replies)
    rw [← updates, List.append_nil] at whole
    rw [← left]
    exact whole

/-- What the controller has of a message that was sent is the message: its chunks in order, each
once, and where one was refused the very next frame has its bytes again. However a send ends, it
gives the lock back, so that the next one is not refused for it. The updates are those that the
platform has got, each with its answer. -/
theorem Reachable.send_delivers {serial : List UInt8} (reachable : Reachable settings serial l)
    (least : 6 ≤ settings.legacyChunkLength.toNat)
    (most : settings.legacyChunkLength.toNat ≤ maxChunkLength) {data : List UInt8}
    (short : data.length ≤ 65535) :
    ((l.send data).1 = .ok () →
      delivered (l.sendUpdates data) = Chunk.ofMessage settings.legacyChunkLength.toNat data ∧
        Rewritten (l.sendUpdates data)) ∧
    (l.send data).2.platform.updates =
      l.platform.updates ++ (l.sendUpdates data).flatMap Update.written ∧
    (l.send data).2.core.endpoint.isSending = false ∧
    (l.send data).2.core.endpoint.session.lock.inTransmit = false ∧
    ∀ length, ((l.send data).2.core.endpoint.beginSend length).1 ≠ .error .busy := by
  obtain ⟨ended, logged⟩ := reachable.idle.send data
  refine ⟨fun done => ?_, logged, ended.free, ?_, ended.not_busy⟩
  · have delivers := reachable.idle.delivers least most short done
    exact ⟨delivers.delivered, delivers.rewritten⟩
  · rw [Session.lock, SendLock.inTransmit, ended.unentered]
    rfl

/-- A client that has subscribed asks for the version while the first of three chunks goes out. The
chunk is refused and written again once a buffer is free, and the reply follows it. -/
theorem Reachable.send_delivers_rewritten :
    let connects := [0x04, 0x3E, 0x13, 0x01, 0x00, 0x01, 0x08] ++ List.replicate 15 0x00
    let subscribes := [0x04, 0xFF, 0x0B, 0x01, 0x0C, 0x01, 0x08, 0x52, 0x00, 0x02, 0x00, 0x00,
      0x01, 0x00]
    let asks := [0x04, 0xFF, 0x0A, 0x13, 0x0C, 0x01, 0x08, 0x61, 0x00, 0x03, 0x00, 0x00, 0x00]
    let refuses := [0x04, 0x0E, 0x04, 0x01, 0x06, 0xFD, 0x64]
    let frees := [0x04, 0xFF, 0x02, 0x16, 0x0C]
    let operations : List Operation := [.power true, .script { queue := [.hci connects, .hci subscribes] },
      .processEvent, .processEvent,
      .script { rules := [⟨0xFD06, [.hci asks, .hci refuses, .hci frees]⟩] }]
    let l := operations.foldl Link.operate (Link.create .standard [1, 2, 3, 4] {})
    let data := List.replicate 40 0x2A
    (Reachable .standard [1, 2, 3, 4] l ∧ 6 ≤ Settings.standard.legacyChunkLength.toNat ∧
      Settings.standard.legacyChunkLength.toNat ≤ maxChunkLength ∧ data.length ≤ 65535 ∧
      (l.send data).1 = .ok ()) ∧
    (l.sendUpdates data).map (fun u => (u.isMessage, u.accepted)) =
      [(true, false), (true, true), (false, true), (true, true), (true, true)] ∧
    delivered (l.sendUpdates data) =
      Chunk.ofMessage Settings.standard.legacyChunkLength.toNat data ∧
    Rewritten (l.sendUpdates data) ∧
    (l.send data).2.platform.updates =
      l.platform.updates ++ (l.sendUpdates data).flatMap Update.written ∧
    (l.send data).2.core.endpoint.isSending = false ∧
    (l.send data).2.core.endpoint.session.lock.inTransmit = false ∧
    ∀ length, ((l.send data).2.core.endpoint.beginSend length).1 ≠ .error .busy := by
  intro connects subscribes asks refuses frees operations l data
  have reachable : Reachable .standard [1, 2, 3, 4] l := (create {}).operations operations
  have least : 6 ≤ Settings.standard.legacyChunkLength.toNat := by decide
  have most : Settings.standard.legacyChunkLength.toNat ≤ maxChunkLength := by decide
  have short : data.length ≤ 65535 := by decide
  have done : (l.send data).1 = .ok () := by
    have sent : (l.send data).1.isOk = true := by decide +kernel
    cases result : (l.send data).1 with
    | ok => rfl
    | error error =>
      rw [result] at sent
      cases sent
  have delivers := reachable.send_delivers least most short
  exact ⟨⟨reachable, least, most, short, done⟩, by decide +kernel, (delivers.1 done).1,
    (delivers.1 done).2, delivers.2⟩

end Link

end CardLink.Legacy
