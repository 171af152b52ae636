import TagInventory.Engine.Core
import TagInventory.Proofs.Reassembly
import TagInventory.Proofs.Reply

/-!
# What a byte from the reader does

`Core.receive` passes the error and the tag of a reply through the session.  Between two
bytes the session holds neither (`Session.Drained`), so that what is fetched belongs to
the frame that the byte completes.  Under this invariant `intake_of_reply` says in one
equation what a completed reply does: it records its tag, ends the wait for all tags where
`endsBufferRead` holds, and signals its own command, with its own outcome.
-/

namespace TagInventory

/-! ## The session between two bytes -/

namespace Session

/-- Nothing waits to be fetched. -/
structure Drained (session : Session) : Prop where
  lastError_eq : session.lastError = none
  tagReads_eq : session.tagReads = []

/-- The session with everything fetched. -/
def drain (session : Session) : Session :=
  { session with lastError := none, tagReads := [] }

theorem drained_initial : initial.Drained := ⟨rfl, rfl⟩

theorem drained_drain (session : Session) : session.drain.Drained := ⟨rfl, rfl⟩

end Session

/-! ## Replies -/

namespace Reply

/-- How a reply ends the wait for its command. -/
def outcome (reply : Reply) : WaitOutcome :=
  match reply.result with
  | .ok _ => .completed
  | .error error => .rejected error

end Reply

namespace Receiver

/-- A byte that completes no reply leaves the session alone. -/
theorem session_push_of_none {receiver : Receiver} {byte : UInt8}
    (h : receiver.replyTo? byte = none) : (receiver.push byte).session = receiver.session := by
  rw [session_push]
  rw [replyTo?] at h
  cases hframe : (receiver.find byte).frame with
  | none => rfl
  | some frame =>
      rw [hframe, Option.bind_some] at h
      simp [Session.applyFrame, h]

theorem session_push_of_some {receiver : Receiver} {byte : UInt8} {reply : Reply}
    (h : receiver.replyTo? byte = some reply) :
    (receiver.push byte).session = receiver.session.apply reply := by
  rw [session_push]
  rw [replyTo?] at h
  obtain ⟨frame, hframe, hreply⟩ := Option.bind_eq_some_iff.mp h
  simp [hframe, Session.applyFrame, hreply]

end Receiver

/-! ## What a byte can touch -/

/-- The shared state after something that touches only what the reader's bytes are for. -/
def Core.Takes (core after : Core) : Prop :=
  after = { core with receiver := after.receiver, tags := after.tags, waits := after.waits }

namespace Core.Takes

variable {core middle after : Core}

theorem trans (hfirst : core.Takes middle) (hsecond : middle.Takes after) : core.Takes after := by
  rw [Takes] at hfirst hsecond ⊢
  rw [hsecond, hfirst]

theorem recordTag (intake : Intake) (command : Command) (read : TagRead) :
    intake.core.Takes (intake.recordTag command read).core := by
  dsimp only [Intake.recordTag]
  split <;> rfl

theorem answer (intake : Intake) (command : Command) (error : Option (Command × DeviceError)) :
    intake.core.Takes (intake.answer command error).core := by
  unfold Intake.answer
  split
  · split
    · split <;> rfl
    · rfl
  · rfl

theorem recordTags (reads : List (Command × TagRead)) (intake : Intake) :
    intake.core.Takes
      (reads.foldl (fun intake entry => intake.recordTag entry.1 entry.2) intake).core := by
  induction reads generalizing intake with
  | nil => rfl
  | cons read reads ih => exact (recordTag intake read.1 read.2).trans (ih _)

theorem config_eq (h : core.Takes after) : after.config = core.config := by rw [h]

theorem connected_eq (h : core.Takes after) : after.connected = core.connected := by rw [h]

theorem initialized_eq (h : core.Takes after) : after.initialized = core.initialized := by rw [h]

theorem inventoryActive_eq (h : core.Takes after) :
    after.inventoryActive = core.inventoryActive := by rw [h]

/-- The link, its flags and the configuration are none of a byte's business. -/
theorem receive (core : Core) (byte : UInt8) : core.Takes (core.receive byte) := by
  rw [Core.receive, intake]
  split
  · rfl
  · -- the receiver is replaced before the tags are recorded, and once more afterwards
    exact (recordTags _ ⟨setSession { core with receiver := core.receiver.push byte } _, []⟩).trans
      (answer _ _ _)

end Core.Takes

namespace Core

/-! ## One byte -/

/-- Whether a reply ends the wait for all tags: a buffer record that brings the number of
tags received to the announced one, which is not zero, or a failed buffer read. -/
def endsBufferRead (core : Core) (reply : Reply) : Bool :=
  match reply.result, reply.tag? with
  | .error _, _ => reply.command = .getAndResetInventoryBuffer
  | .ok _, some tag =>
    reply.command.readsBuffer ∧ tag.announced ≠ 0 ∧
      tag.announced.toNat = (core.tags.record tag).received
  | .ok _, none => false

/-- The waits after a reply. -/
def waitsAfter (core : Core) (reply : Reply) : WaitTable :=
  ((if core.endsBufferRead reply then (core.waits.signal .allTagsReceived .completed).2
    else core.waits).signal reply.command reply.outcome).2

/-- The signals that a reply gives rise to. -/
def signalsOf (core : Core) (reply : Reply) : List Signal :=
  (if core.endsBufferRead reply then [⟨.allTagsReceived, .completed⟩] else []) ++
    [⟨reply.command, reply.outcome⟩]

theorem intake_of_none {core : Core} {byte : UInt8} (h : core.receiver.replyTo? byte = none) :
    core.intake byte = ⟨{ core with receiver := core.receiver.push byte }, []⟩ := by
  rw [intake, h]

/-- What a byte does that completes a reply. -/
theorem intake_of_reply {core : Core} {byte : UInt8} {reply : Reply}
    (hdrained : core.session.Drained) (h : core.receiver.replyTo? byte = some reply) :
    core.intake byte = {
      core := { core with
        receiver := ⟨(core.receiver.push byte).buffer, (core.session.apply reply).drain⟩
        tags := match reply.tag? with
          | some tag => core.tags.record tag
          | none => core.tags
        waits := core.waitsAfter reply }
      signals := core.signalsOf reply } := by
  have hsession := Receiver.session_push_of_some h
  obtain ⟨herror, hreads⟩ := hdrained
  rw [session] at herror hreads
  obtain ⟨command, result⟩ := reply
  rw [intake, h]
  cases result with
  | error error =>
      by_cases hcommand : command = .getAndResetInventoryBuffer <;>
        simp [session, setSession, hsession, Session.apply, Session.takeTagReads,
          Session.takeLastError, Session.drain, hreads, Intake.answer, Intake.signal, signal,
          waitsAfter, signalsOf, endsBufferRead, Reply.tag?, Reply.outcome, hcommand]
  | ok response =>
      cases response with
      | readTag tag | bufferedTag tag =>
          by_cases hall : command.readsBuffer = true ∧ tag.announced ≠ 0 ∧
            tag.announced.toNat = (core.tags.record tag).received <;>
          simp [session, setSession, hsession, Session.apply, Session.record,
            Session.takeTagReads, Session.takeLastError, Session.drain, herror, hreads,
            Intake.answer, Intake.signal, signal, waitsAfter, signalsOf, endsBufferRead,
            Reply.tag?, Reply.outcome, Intake.recordTag, hall]
      | _ =>
          simp [session, setSession, hsession, Session.apply, Session.record,
            Session.takeTagReads, Session.takeLastError, Session.drain, herror, hreads,
            Intake.answer, Intake.signal, signal, waitsAfter, signalsOf, endsBufferRead,
            Reply.tag?, Reply.outcome]

theorem receive_of_none {core : Core} {byte : UInt8} (h : core.receiver.replyTo? byte = none) :
    core.receive byte = { core with receiver := core.receiver.push byte } := by
  rw [receive, intake_of_none h]

theorem receive_of_reply {core : Core} {byte : UInt8} {reply : Reply}
    (hdrained : core.session.Drained) (h : core.receiver.replyTo? byte = some reply) :
    core.receive byte = { core with
      receiver := ⟨(core.receiver.push byte).buffer, (core.session.apply reply).drain⟩
      tags := match reply.tag? with
        | some tag => core.tags.record tag
        | none => core.tags
      waits := core.waitsAfter reply } := by
  rw [receive, intake_of_reply hdrained h]

end Core

end TagInventory
