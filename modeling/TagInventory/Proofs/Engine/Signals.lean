import TagInventory.Proofs.Engine.Invariant

/-!
# What a byte signals

A byte is taken over in one critical section, in which signals are given to the waits.  The
main statement lists them for every byte in every reachable system.  A byte that completes
no frame of a command of the wire gives none and changes nothing but the buffer.  Any other
byte signals the command of its frame once, with what that frame says, and the wait for all
tags at most once, completed, exactly where the buffer read is over (`Core.ReadEnds`).

## Strategy

`Core.intake_of_reply` lists the signals of a reply under the invariant that nothing waits
to be fetched, which holds in every reachable system (`Reachable.sound`).  What remains is
to read the reply off the frame (`Reply.ofFrame?_of_code`) and the end of a buffer read off
its decoded payload (`Core.endsBufferRead_iff`).
-/

namespace TagInventory

namespace Core

variable {core : Core}

/-- The end of a buffer read: a decoded record brings the number of tags received to the
announced one, which is not zero, or the read that empties the buffer has failed. -/
def ReadEnds (core : Core) (command : Command) (result : Except DeviceError Response) : Prop :=
  (command.readsBuffer = true ∧ ∃ tag, result = .ok (.bufferedTag tag) ∧ tag.announced ≠ 0 ∧
      tag.announced.toNat = (core.tags.record tag).received) ∨
    (command = .getAndResetInventoryBuffer ∧ ∃ error, result = .error error)

theorem endsBufferRead_iff (core : Core) (command : Command) (payload : List UInt8) :
    core.endsBufferRead ⟨command, Response.decode command payload⟩ = true ↔
      core.ReadEnds command (Response.decode command payload) := by
  unfold endsBufferRead ReadEnds
  cases hresult : Response.decode command payload with
  | error error => simp
  | ok response =>
      by_cases hreads : command.readsBuffer = true
      · obtain ⟨tag, rfl⟩ := Response.eq_bufferedTag hreads hresult
        simp [Reply.tag?, hreads]
      · cases response <;> simp [Reply.tag?, hreads]

/-- The table after a reply is what its signals make of it. -/
theorem waitsAfter_eq_foldl (core : Core) (reply : Reply) :
    core.waitsAfter reply = (core.signalsOf reply).foldl
      (fun waits signal => (waits.signal signal.command signal.outcome).2) core.waits := by
  unfold waitsAfter signalsOf
  split <;> rfl

/-- The table after a byte is what the signals of the byte make of it. -/
theorem waits_intake (hdrained : core.session.Drained) (byte : UInt8) :
    (core.intake byte).core.waits = (core.intake byte).signals.foldl
      (fun waits signal => (waits.signal signal.command signal.outcome).2) core.waits := by
  cases hreply : core.receiver.replyTo? byte with
  | none => rw [intake_of_none hreply, List.foldl_nil]
  | some reply =>
      rw [intake_of_reply hdrained hreply]
      exact waitsAfter_eq_foldl core reply

/-- A byte that completes no frame of a command of the wire changes the buffer alone. -/
theorem intake_of_foreign {byte : UInt8}
    (h : ∀ frame ∈ (core.receiver.find byte).frame, ∀ command : Command,
      command.onWire = true → frame.command ≠ command.code) :
    core.intake byte = ⟨{ core with receiver := core.receiver.push byte }, []⟩ ∧
      (core.intake byte).core.session = core.session := by
  have hreply : core.receiver.replyTo? byte = none := by
    rw [Receiver.replyTo?]
    cases hframe : (core.receiver.find byte).frame with
    | none => rfl
    | some frame => exact Reply.ofFrame?_eq_none (h frame hframe)
  have hintake := intake_of_none hreply
  refine ⟨hintake, ?_⟩
  rw [hintake]
  exact Receiver.session_push_of_none hreply

/-- A byte that completes a frame of a command of the wire does what this frame says. -/
theorem intake_of_frame (hdrained : core.session.Drained) {byte : UInt8} {frame : Frame}
    {command : Command} (hframe : (core.receiver.find byte).frame = some frame)
    (hwire : command.onWire = true) (hcode : frame.command = command.code) :
    (core.intake byte).core.tags =
        (match (⟨command, Response.decode command frame.payload⟩ : Reply).tag? with
          | some tag => core.tags.record tag
          | none => core.tags) ∧
      (core.intake byte).signals =
        core.signalsOf ⟨command, Response.decode command frame.payload⟩ := by
  have hreply : core.receiver.replyTo? byte =
      some ⟨command, Response.decode command frame.payload⟩ := by
    rw [Receiver.replyTo?, hframe]
    exact Reply.ofFrame?_of_code hwire hcode
  rw [intake_of_reply hdrained hreply]
  exact ⟨rfl, rfl⟩

end Core

namespace System

/-- **What a byte signals.**  In every reachable system and for every byte, nothing waits to
be fetched before or after the byte, and the table of waits changes by the signals alone.

* A byte that completes no frame of a command of the wire changes no view, no wait and no
  field of the session, and signals nothing.
* A byte that completes a frame of such a command records the tag of this frame, if it has
  one, and signals the command once: as rejected, with the error of this frame, or as
  completed.  The only other signal completes the wait for all tags, and it is given exactly
  where the buffer read ends. -/
theorem signals_of_byte {config : EngineConfig} {connected : Bool} {system : System}
    (hreachable : Reachable config connected system) (byte : UInt8) :
    let core := system.core
    let after := (core.intake byte).core
    let signals := (core.intake byte).signals
    core.session.Drained ∧ after.session.Drained ∧
      after.waits = signals.foldl
        (fun waits signal => (waits.signal signal.command signal.outcome).2) core.waits ∧
      ((∀ frame ∈ (core.receiver.find byte).frame, ∀ command : Command,
          command.onWire = true → frame.command ≠ command.code) →
        after.tags = core.tags ∧ after.waits = core.waits ∧ after.session = core.session ∧
          signals = []) ∧
      ∀ frame ∈ (core.receiver.find byte).frame, ∀ command : Command,
        command.onWire = true → frame.command = command.code →
        let result := Response.decode command frame.payload
        let own : Signal := ⟨command, match result with
          | .ok _ => .completed
          | .error error => .rejected error⟩
        (after.tags = match result with
          | .ok (.readTag tag) | .ok (.bufferedTag tag) => core.tags.record tag
          | _ => core.tags) ∧
        ((core.ReadEnds command result ∧ signals = [⟨.allTagsReceived, .completed⟩, own]) ∨
          (¬ core.ReadEnds command result ∧ signals = [own])) := by
  intro core after signals
  have hdrained : core.session.Drained := hreachable.sound.drained
  refine ⟨hdrained, Core.drained_receive hdrained byte, Core.waits_intake hdrained byte, ?_, ?_⟩
  · intro hforeign
    obtain ⟨hintake, hsession⟩ := Core.intake_of_foreign hforeign
    exact ⟨by simp only [after, hintake], by simp only [after, hintake], hsession,
      by simp only [signals, hintake]⟩
  · intro frame hframe command hwire hcode result own
    obtain ⟨htags, hsignals⟩ := Core.intake_of_frame hdrained hframe hwire hcode
    refine ⟨?_, ?_⟩
    · refine htags.trans ?_
      change (match (⟨command, result⟩ : Reply).tag? with
        | some tag => core.tags.record tag
        | none => core.tags) = _
      cases result with
      | error error => rfl
      | ok response => cases response <;> rfl
    · have hown : own = ⟨command, (⟨command, result⟩ : Reply).outcome⟩ := rfl
      have hends := Core.endsBufferRead_iff core command frame.payload
      change signals = core.signalsOf ⟨command, result⟩ at hsignals
      rw [hsignals, Core.signalsOf, hown]
      by_cases hread : core.ReadEnds command result
      · exact .inl ⟨hread, by rw [if_pos (hends.mpr hread)]; rfl⟩
      · exact .inr ⟨hread, by rw [if_neg (mt hends.mp hread)]; rfl⟩

/-- The answer to a buffer read that finds one tag. -/
private def onlyRecord : Frame :=
  .make broadcastAddress Command.getAndResetInventoryBuffer.code
    (encodeBufferRecord 1 0x3000 0x1234 [0xE2, 0xA0] 0x40 0x05 1)

/-- An engine connects, and the record arrives but for its last byte. -/
private def onlyRecordArriving : List Action :=
  [.begin 0 .connect, .step (.caller 0) .proceed, .step (.caller 0) .proceed] ++
    onlyRecord.body.map .receive

theorem signals_of_onlyRecord :
    let core := ((initial .standard true).after onlyRecordArriving).core
    (core.receiver.find onlyRecord.check).frame = some onlyRecord ∧
      (core.intake onlyRecord.check).signals =
        [⟨.allTagsReceived, .completed⟩, ⟨.getAndResetInventoryBuffer, .completed⟩] ∧
      (core.intake onlyRecord.check).core.session.Drained := by
  intro core
  obtain ⟨log, harriving⟩ :=
    run_after (initial .standard true) onlyRecordArriving (by decide +kernel)
  have hframe : (core.receiver.find onlyRecord.check).frame = some onlyRecord := by
    decide +kernel
  obtain ⟨-, hdrained, -, -, hsignals⟩ :=
    signals_of_byte ⟨onlyRecordArriving, log, harriving⟩ onlyRecord.check
  obtain ⟨-, ⟨-, hsignals⟩ | ⟨hnot, -⟩⟩ :=
    hsignals onlyRecord hframe .getAndResetInventoryBuffer rfl rfl
  · exact ⟨hframe, hsignals, hdrained⟩
  · refine absurd (.inl ⟨rfl, _, rfl, ?_, ?_⟩) hnot
    · decide +kernel
    · decide +kernel

end System

end TagInventory
