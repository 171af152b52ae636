import TagInventory.Proofs.Engine.Field
import TagInventory.Proofs.Engine.Streams

/-!
# How a buffer read ends

A buffer record that announces as many tags as were received since the read was begun ends the
wait for all tags.  All records are counted for this, also the answers to direct reads that
somebody else asked for meanwhile.  The wait therefore ends too early by as many tags as were
read directly and not streamed (`System.bufferRead_ends`), and then these tags are missing from
the cycle (`System.bufferRead_cut_short`).
-/

namespace TagInventory

/-! ## Records by what they answer -/

/-- The EPCs of the records that answer some commands, in order. -/
def epcsIn (answers : Command → Bool) (moments : List Moment) : List (List UInt8) :=
  moments.filterMap fun moment =>
    moment.reply?.bind fun reply =>
      if answers reply.command then reply.tag?.map TagRead.epc else none

/-- The EPCs that were streamed from the buffer of the reader. -/
def bufferedEpcs (moments : List Moment) : List (List UInt8) :=
  epcsIn Command.readsBuffer moments

/-- The EPCs that were read directly. -/
def directEpcs (moments : List Moment) : List (List UInt8) :=
  epcsIn (fun command => command = .read) moments

theorem mem_epcsIn {answers : Command → Bool} {moments : List Moment} {epc : List UInt8} :
    epc ∈ epcsIn answers moments ↔ ∃ moment ∈ moments, ∃ reply, moment.reply? = some reply ∧
      answers reply.command = true ∧ ∃ tag, reply.tag? = some tag ∧ tag.epc = epc := by
  simp only [epcsIn, List.mem_filterMap, Option.bind_eq_some_iff, Option.ite_none_right_eq_some,
    Option.map_eq_some_iff]

theorem Reply.command_of_tag {frame : Frame} {reply : Reply} {tag : TagRead}
    (h : ofFrame? frame = some reply) (htag : reply.tag? = some tag) :
    reply.command = .read ∨ reply.command.readsBuffer = true := by
  unfold tag? at htag
  split at htag
  · rename_i read hresult
    exact .inl (answers h hresult)
  · rename_i read hresult
    exact .inr (answers h hresult)
  · cases htag

/-- Every record that was decoded was streamed or read directly. -/
theorem exists_mem_readsIn {moments : List Moment} {epc : List UInt8} :
    (∃ tag ∈ readsIn moments, tag.epc = epc) ↔
      epc ∈ directEpcs moments ∨ epc ∈ bufferedEpcs moments := by
  simp only [readsIn, List.mem_filterMap, Option.bind_eq_some_iff, directEpcs, bufferedEpcs,
    mem_epcsIn, decide_eq_true_eq]
  constructor
  · rintro ⟨tag, ⟨moment, hmoment, reply, hreply, htag⟩, rfl⟩
    have hframe : ∃ frame, Reply.ofFrame? frame = some reply := by
      cases moment with
      | turn taken => cases hreply
      | byte core received =>
          obtain ⟨frame, -, hframe⟩ := Option.bind_eq_some_iff.mp hreply
          exact ⟨frame, hframe⟩
    obtain ⟨frame, hframe⟩ := hframe
    refine (Reply.command_of_tag hframe htag).imp ?_ ?_
    · exact fun hread => ⟨moment, hmoment, reply, hreply, hread, tag, htag, rfl⟩
    · exact fun hreads => ⟨moment, hmoment, reply, hreply, hreads, tag, htag, rfl⟩
  · rintro (⟨moment, hmoment, reply, hreply, -, tag, htag, rfl⟩ |
      ⟨moment, hmoment, reply, hreply, -, tag, htag, rfl⟩)
    · exact ⟨tag, ⟨moment, hmoment, reply, hreply, htag⟩, rfl⟩
    · exact ⟨tag, ⟨moment, hmoment, reply, hreply, htag⟩, rfl⟩

/-! ## Ends -/

namespace Core

variable {core : Core}

/-- What ends a buffer read: a record that announces as many tags as are received with it, or
the failure of the read. -/
theorem endsBufferRead_case {reply : Reply} (h : core.endsBufferRead reply = true) :
    (∃ tag, reply.tag? = some tag ∧ reply.command.readsBuffer = true ∧ tag.announced ≠ 0 ∧
        tag.announced.toNat = (core.tags.record tag).received) ∨
      reply.command = .getAndResetInventoryBuffer ∧ ∃ error, reply.result = .error error := by
  unfold endsBufferRead at h
  split at h
  · rename_i error hresult
    exact .inr ⟨of_decide_eq_true h, error, hresult⟩
  · rename_i response tag hresult htag
    exact .inl ⟨tag, htag, of_decide_eq_true h⟩
  · cases h

/-- The wait for all tags is ended by the end of a buffer read, and by nothing else. -/
theorem ends_of_signal (hdrained : core.session.Drained) {byte : UInt8} {outcome : WaitOutcome}
    (h : ⟨.allTagsReceived, outcome⟩ ∈ (core.intake byte).signals) :
    ∃ reply, core.receiver.replyTo? byte = some reply ∧ core.endsBufferRead reply = true := by
  cases hreply : core.receiver.replyTo? byte with
  | none =>
      rw [intake_of_none hreply] at h
      cases h
  | some reply =>
      obtain ⟨frame, -, hframe⟩ := Option.bind_eq_some_iff.mp hreply
      have hwire := Reply.onWire_command hframe
      refine ⟨reply, rfl, ?_⟩
      rw [intake_of_reply hdrained hreply] at h
      by_contra hends
      simp only [signalsOf, if_neg hends, List.nil_append, List.mem_singleton,
        Signal.mk.injEq] at h
      rw [← h.1] at hwire
      cases hwire

end Core

theorem View.size_eq_card {view : View} {epcs : List (List UInt8)}
    (h : ∀ key, key ∈ view.keys ↔ ∃ epc ∈ epcs, hexText epc = key) :
    view.size = epcs.toFinset.card := by
  have hholds : view.Holds {epc | epc ∈ epcs} := h
  have hsize := hholds.encard_eq
  rw [← List.coe_toFinset, Set.encard_coe_eq_coe_finsetCard] at hsize
  exact (Nat.cast_injective hsize).symm

namespace System

variable {config : EngineConfig} {connected : Bool} {system last : System} {run : RunId}
  {worker : Worker} {actions : List Action} {log : List Event}

/-- **How a buffer read ends by count.**  A run of a single worker has begun to read the buffer,
in any reachable system, and this read is in flight.  A byte arrives that completes the wait for
all tags, and it does not complete an error answer to this read.  Then it completes a buffer
record, and the number that this record announces is the number of different EPCs that were
streamed since the read was begun, and of those that were only read directly since then, taken
together.

So the read is complete, with at least as many different EPCs streamed as were announced, if
and only if everything that was read directly meanwhile was streamed as well. -/
theorem bufferRead_ends (hreachable : Reachable config connected system)
    (hworker : system.roster.worker? run = some worker) (hsolo : Solo run actions)
    (hrun : system.run actions = some (last, log)) {streamed : List Moment}
    (hstreaming : Streaming (system.trace run actions) streamed) {byte : UInt8}
    (hsignal : ⟨.allTagsReceived, .completed⟩ ∈ (last.core.intake byte).signals)
    (hanswer : ∀ error, last.core.receiver.replyTo? byte ≠
      some ⟨.getAndResetInventoryBuffer, .error error⟩) :
    let received := streamed ++ [.byte last.core byte]
    let buffered := (bufferedEpcs received).toFinset
    let direct := (directEpcs received).toFinset
    ∃ reply tag, last.core.receiver.replyTo? byte = some reply ∧
      reply.command.readsBuffer = true ∧ reply.tag? = some tag ∧ tag.announced ≠ 0 ∧
      tag.announced.toNat = (direct \ buffered).card + buffered.card ∧
      (tag.announced.toNat ≤ buffered.card ↔ direct ⊆ buffered) := by
  intro received buffered direct
  have hdrained : system.core.session.Drained := hreachable.sound.drained
  obtain ⟨moved, -, hcourse⟩ := course_of_solo hworker hsolo hrun
  have hlast := hcourse.drained hdrained
  obtain ⟨reply, hreply, hends⟩ := Core.ends_of_signal hlast hsignal
  obtain ⟨tag, htag, hreads, hsome, hcount⟩ | ⟨hcommand, error, hresult⟩ :=
    Core.endsBufferRead_case hends
  · have htags : (last.core.receive byte).tags = last.core.tags.record tag := by
      rw [Core.receive_of_reply hlast hreply, htag]
    have hkeys (key : String) : key ∈ (last.core.tags.record tag).pending.keys ↔
        ∃ epc ∈ directEpcs received ++ bufferedEpcs received, hexText epc = key := by
      rw [← htags, (hcourse.byte byte).mem_pending_iff hdrained hstreaming.byte]
      simp only [List.mem_append, ← exists_mem_readsIn]
      constructor
      · rintro ⟨read, hread, rfl⟩
        exact ⟨read.epc, ⟨read, hread, rfl⟩, rfl⟩
      · rintro ⟨epc, ⟨read, hread, rfl⟩, rfl⟩
        exact ⟨read, hread, rfl⟩
    have hcard : tag.announced.toNat = (direct \ buffered).card + buffered.card := by
      rw [hcount, Finset.card_sdiff_add_card, ← List.toFinset_append]
      exact View.size_eq_card hkeys
    refine ⟨reply, tag, hreply, hreads, htag, hsome, hcard, ?_⟩
    rw [hcard, ← Finset.sdiff_eq_empty_iff_subset, ← Finset.card_eq_zero]
    omega
  · refine absurd hreply ?_
    obtain ⟨command, result⟩ := reply
    cases hcommand
    cases hresult
    exact hanswer error

/-- The moments since a worker has begun to read the buffer, while it leaves the views alone. -/
private theorem streaming_of_begun {begun : System} {choice : Choice}
    (hbegins : (system.roster.worker? run).bind Worker.operation? = some .beginBufferRead)
    (hbegun : system.run [.step (.worker run) choice] = some (begun, log))
    (hsilent : ∀ turn ∈ turnsOf (begun.trace run actions), turn.worker.operation? = none) :
    Streaming (system.trace run (.step (.worker run) choice :: actions))
      (begun.trace run actions) := by
  obtain ⟨next, events, later, hstep, hrest, -⟩ := run_cons_case hbegun
  cases hrest
  obtain ⟨worker, advance, hworker, hadvance, -⟩ := stepWorker_case hstep
  rw [hworker] at hbegins
  refine ⟨[], ⟨system.core, worker, choice, advance⟩, ?_, hbegins, hsilent⟩
  rw [trace_cons hstep, moment?, if_pos rfl, hworker, Option.bind_some, hadvance]
  rfl

private def sighting (last : UInt8) : Sighting :=
  ⟨[0xE2, last], 0x3000, 0x1234, 0x40, 0x05, 1⟩

/-- A reader that finds two tags. -/
private def twoTags : Poll :=
  ⟨0xFF, ⟨0, 2, 10, 2⟩, [sighting 0xA0, sighting 0xA1]⟩

/-- A run of one cycle has counted the tags. -/
private def twoCounted : List Action :=
  launching (.runBounded 1 false) ++ proceeding 3 ++ expiring :: proceeding 3 ++
    expiring :: proceeding 3 ++ arriving twoTags.countFrame ++ proceeding 2

private def streamedRecord (last : UInt8) : Frame :=
  twoTags.recordFrame (sighting last)

/-- The record of a tag that was read directly. -/
private def directRecord (last : UInt8) : Frame :=
  .make broadcastAddress Command.read.code (encodeReadRecord 1 0x3000 0x1234 [0xE2, last] [] 0x40 1)

private def beginning : Action := .step (.worker 0) .proceed

/-- The buffer is asked for, somebody else asks for a direct read, and some frames arrive, the
last of them but for its last byte. -/
private def streaming (frames : List Frame) (last : Frame) : List Action :=
  proceeding 2 ++ .begin 2 (.execute Command.read.code [1]) :: .step (.caller 2) .proceed ::
    frames.flatMap arriving ++ last.body.map .receive

theorem bufferRead_ends_completely :
    let system := (initial .standard true).after twoCounted
    let actions := streaming [streamedRecord 0xA0, directRecord 0xA0] (streamedRecord 0xA1)
    let last := system.after (beginning :: actions)
    let streamed := (system.after [beginning]).trace 0 actions
    let received := streamed ++ [.byte last.core (streamedRecord 0xA1).check]
    Streaming (system.trace 0 (beginning :: actions)) streamed ∧
      ⟨.allTagsReceived, .completed⟩ ∈ (last.core.intake (streamedRecord 0xA1).check).signals ∧
      directEpcs received = [[0xE2, 0xA0]] ∧ 2 ≤ (bufferedEpcs received).toFinset.card := by
  intro system actions last streamed received
  obtain ⟨_, hcounted⟩ := run_after (initial .standard true) twoCounted (by decide +kernel)
  obtain ⟨_, hbegun⟩ := run_after system [beginning] (by decide +kernel)
  have hstreaming : Streaming (system.trace 0 (beginning :: actions)) streamed :=
    streaming_of_begun (by decide +kernel) hbegun (by decide +kernel)
  obtain ⟨worker, hworker⟩ : ∃ worker, system.roster.worker? 0 = some worker :=
    Option.isSome_iff_exists.mp (by decide +kernel)
  have hsolo : Solo 0 (beginning :: actions) := by
    decide +kernel
  obtain ⟨log, hrun⟩ := run_after system (beginning :: actions) (by decide +kernel)
  have hsignal : ⟨.allTagsReceived, .completed⟩ ∈
      (last.core.intake (streamedRecord 0xA1).check).signals := by
    decide +kernel
  have hcompleting : ((last.core.receiver.replyTo? (streamedRecord 0xA1).check).bind
      Reply.tag?).map TagRead.announced = some 2 := by
    decide +kernel
  have hanswer : ∀ error, last.core.receiver.replyTo? (streamedRecord 0xA1).check ≠
      some ⟨.getAndResetInventoryBuffer, .error error⟩ := by
    intro error hreply
    rw [hreply] at hcompleting
    cases hcompleting
  obtain ⟨reply, tag, hreply, -, htag, -, -, hcomplete⟩ :=
    bufferRead_ends ⟨_, _, hcounted⟩ hworker hsolo hrun hstreaming hsignal hanswer
  have hannounced : tag.announced = 2 := by
    rw [hreply, Option.bind_some, htag] at hcompleting
    exact Option.some.inj hcompleting
  have hdirect : directEpcs received = [[0xE2, 0xA0]] := by
    decide +kernel
  refine ⟨hstreaming, hsignal, hdirect, ?_⟩
  rw [hannounced] at hcomplete
  refine hcomplete.mpr ?_
  decide +kernel

/-- A buffer read can end by count before it is complete: a tag that is read directly meanwhile
stands in for one that was not streamed yet. -/
theorem bufferRead_cut_short :
    let system := (initial .standard true).after twoCounted
    let actions := streaming [directRecord 0xA1] (streamedRecord 0xA0)
    let last := system.after (beginning :: actions)
    let streamed := (system.after [beginning]).trace 0 actions
    let received := streamed ++ [.byte last.core (streamedRecord 0xA0).check]
    Reachable .standard true system ∧ Solo 0 (beginning :: actions) ∧
      Streaming (system.trace 0 (beginning :: actions)) streamed ∧
      ⟨.allTagsReceived, .completed⟩ ∈ (last.core.intake (streamedRecord 0xA0).check).signals ∧
      ((last.core.receiver.replyTo? (streamedRecord 0xA0).check).bind Reply.tag?).map
        TagRead.announced = some 2 ∧
      (bufferedEpcs received).toFinset.card = 1 := by
  intro system actions last streamed received
  obtain ⟨_, hcounted⟩ := run_after (initial .standard true) twoCounted (by decide +kernel)
  obtain ⟨_, hbegun⟩ := run_after system [beginning] (by decide +kernel)
  have hstreaming : Streaming (system.trace 0 (beginning :: actions)) streamed :=
    streaming_of_begun (by decide +kernel) hbegun (by decide +kernel)
  exact ⟨⟨_, _, hcounted⟩, by decide +kernel, hstreaming, by decide +kernel, by decide +kernel,
    by decide +kernel⟩

end System

end TagInventory
