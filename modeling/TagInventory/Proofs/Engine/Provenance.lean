import TagInventory.Proofs.Engine.Counts
import TagInventory.Proofs.Engine.Field
import TagInventory.Proofs.Engine.Polling
import TagInventory.Proofs.Engine.Streams

/-!
# Where the tags of a snapshot come from

The snapshot of a run of a single worker changes with the commit of a cycle, and with nothing
else.  A cycle that is committed has done all its polls, and the tags that it commits were
decoded from records in it: each of them while a buffer read of this cycle was streamed, whose
tags the cycle took over afterwards.  Nothing is left from an earlier cycle, an earlier buffer
read or an earlier run.

## Strategy

`Sourced` says where the tags of the cycle in progress come from.  It changes with the turn that
absorbs a buffer read, and what this turn takes over is known from the turn that began the read
(`Course.mem_pending_iff`).
-/

namespace TagInventory

/-- A tag was decoded while a buffer read was streamed, and this read was absorbed. -/
def Absorbed (moments : List Moment) (key : String) : Prop :=
  ∃ earlier streamed absorbing later, moments = earlier ++ .turn absorbing :: later ∧
    absorbing.worker.operation? = some .absorb ∧ Streaming earlier streamed ∧
    ∃ tag ∈ readsIn streamed, tag.key = key

theorem Absorbed.concat {moments : List Moment} {key : String} (h : Absorbed moments key)
    (moment : Moment) : Absorbed (moments ++ [moment]) key := by
  obtain ⟨earlier, streamed, absorbing, later, rfl, habsorbing, hstreaming, htag⟩ := h
  exact ⟨earlier, streamed, absorbing, later ++ [moment], by simp, habsorbing, hstreaming, htag⟩

namespace Worker

variable {core : Core} {worker next : Worker} {choice : Choice} {frames : List Frame}

/-- A step inside a poll leaves the views alone, or begins or ends a buffer read. -/
theorem operation?_of_polls (h : worker.phase.polls = true) :
    worker.operation? = none ∨ worker.operation? = some .beginBufferRead ∨
      worker.operation? = some .absorb ∧ worker.phase.reads = true := by
  cases hphase : worker.phase with
  | asking stage exchange =>
      rw [operation?, hphase]
      cases stage with
      | buffer announced =>
          cases exchange with
          | opening => exact .inr (.inl rfl)
          | _ => exact .inl rfl
      | _ => exact .inl rfl
  | absorbing announced =>
      rw [operation?, hphase]
      exact .inr (.inr ⟨rfl, rfl⟩)
  | settling | counting | checkingStop =>
      rw [operation?, hphase]
      exact .inl rfl
  | _ =>
      rw [hphase] at h
      cases h

end Worker

/-! ## Cycles -/

/-- Where the tags of the views come from, in the middle of a cycle. -/
structure Sourced (cycle : List Moment) (core : Core) (worker : Worker) : Prop where
  /-- The cycle has taken over what was streamed in it. -/
  inProgress : ∀ key ∈ core.tags.inProgress.keys,
    Absorbed cycle key ∧ key ∈ core.tags.accumulated.keys
  /-- What is streamed is accumulated at once. -/
  pending : worker.phase.reads = true →
    ∀ key ∈ core.tags.pending.keys, key ∈ core.tags.accumulated.keys

namespace Sourced

variable {cycle : List Moment} {core : Core} {worker : Worker}

theorem turn (h : Sourced cycle core worker) (hpolls : worker.phase.polls = true)
    (hstreamed : worker.phase.reads = true → ∃ streamed, Streaming cycle streamed ∧
      ∀ key, key ∈ core.tags.pending.keys ↔ ∃ tag ∈ readsIn streamed, tag.key = key)
    {choice : Choice} {advance : Advance Worker}
    (hstep : worker.step core choice = some advance) :
    Sourced (cycle ++ [.turn ⟨core, worker, choice, advance⟩]) advance.core advance.next := by
  have htags := Worker.step_tags hstep
  have hread := (Worker.step_flow hstep).into_read
  rcases Worker.operation?_of_polls hpolls with hnone | hbegin | ⟨habsorb, hreads⟩
  · rw [hnone] at htags hread
    constructor
    · rw [htags]
      exact fun key hkey => (h.inProgress key hkey).imp_left (·.concat _)
    · rw [htags]
      exact fun hnext => h.pending ((hread hnext).resolve_left nofun).2
  · rw [hbegin] at htags
    constructor
    · rw [htags]
      exact fun key hkey => (h.inProgress key hkey).imp_left (·.concat _)
    · -- the view of the buffer read in flight was just emptied
      rw [htags]
      intro _ key hkey
      cases hkey
  · rw [habsorb] at htags
    constructor
    · rw [htags]
      intro key hkey
      rcases View.mem_keys_merge.mp hkey with hkey | hkey
      · exact (h.inProgress key hkey).imp_left (·.concat _)
      · obtain ⟨streamed, hstreaming, hpending⟩ := hstreamed hreads
        exact ⟨⟨cycle, streamed, _, [], rfl, habsorb, hstreaming, (hpending key).mp hkey⟩,
          h.pending hreads key hkey⟩
    · rw [htags]
      intro _ key hkey
      cases hkey

/-- A tag that is decoded belongs to the buffer read in flight. -/
theorem byte (h : Sourced cycle core worker) (hdrained : core.session.Drained) (byte : UInt8) :
    Sourced (cycle ++ [.byte core byte]) (core.receive byte) worker := by
  have htags := Core.tags_receive hdrained byte
  rw [Core.recordsOf] at htags
  cases hread : (core.receiver.replyTo? byte).bind Reply.tag? with
  | none =>
      rw [hread] at htags
      constructor
      · rw [htags]
        exact fun key hkey => (h.inProgress key hkey).imp_left (·.concat _)
      · rw [htags]
        exact h.pending
  | some tag =>
      rw [hread] at htags
      constructor
      · rw [htags]
        intro key hkey
        obtain ⟨habsorbed, haccumulated⟩ := h.inProgress key hkey
        exact ⟨habsorbed.concat _, View.mem_keys_insert.mpr (.inr haccumulated)⟩
      · rw [htags]
        intro hreads key hkey
        refine View.mem_keys_insert.mpr ?_
        exact (View.mem_keys_insert.mp hkey).imp_right (h.pending hreads key)

end Sourced

namespace Course

variable {start core : Core} {spawned worker : Worker} {cycle moments : List Moment}

/-- A cycle that begins empty has tags that were decoded in it. -/
theorem sourced (h : Course Core.Leaves start spawned cycle core worker)
    (hdrained : start.session.Drained) (hempty : start.tags.inProgress = .empty)
    (hspawned : spawned.phase = .settling) (honly : OnlyPolls cycle) :
    Sourced cycle core worker := by
  induction h with
  | nil =>
      constructor
      · rw [hempty]
        intro key hkey
        cases hkey
      · rw [hspawned]
        nofun
  | turn h hstep ih =>
      obtain ⟨honly, hpolls⟩ := (onlyPolls_concat_turn _ _).mp honly
      refine (ih honly).turn hpolls ?_ hstep
      intro hreads
      obtain ⟨streamed, hstreaming⟩ := h.streaming (by rw [hspawned]; rfl) hreads
      exact ⟨streamed, hstreaming, h.mem_pending_iff hdrained hstreaming⟩
  | byte h byte ih =>
      exact (ih ((onlyPolls_concat_byte _ _ _).mp honly)).byte (h.drained hdrained) byte
  | aside h hcore hworker ih =>
      obtain ⟨hinProgress, hpending⟩ := ih honly
      constructor
      · rw [hcore.tags_eq]
        exact hinProgress
      · rw [hcore.tags_eq, hworker.phase_eq]
        exact hpending

end Course

namespace System

variable {config : EngineConfig} {connected : Bool} {system last : System} {run : RunId}
  {plan : RunPlan} {actions : List Action} {log : List Event}

/-- **Cycles are atomic, and free of ghosts.**  A run is spawned in any reachable system, and
any actions follow, of any threads but another worker.  Then

* the snapshot is the one that was committed last, and the one at the start until then;
* a cycle that is committed was begun by a turn of its own.  Since then its worker only polled:
  it has asked for an inventory and looked for a stop as often as the cycle has polls, no stop
  had been requested when it looked last, and no step has failed;
* every tag that a cycle commits was decoded from a record in this cycle, between the beginning
  of a buffer read and the turn that absorbed it, and is among the accumulated tags of the run;
* a cycle that is not committed leaves the snapshot as it was when the cycle began;
* a poll acts on zero, or on a count that was answered since this poll reset it. -/
theorem cycles_of_solo (hreachable : Reachable config connected system)
    (hworker : system.roster.worker? run = some (.spawn plan)) (hsolo : Solo run actions)
    (hrun : system.run actions = some (last, log)) :
    let moments := system.trace run actions
    last.core.tags.snapshot = (snapshotsIn moments).getLastD system.core.tags.snapshot ∧
      (∀ earlier commit later, moments = earlier ++ .turn commit :: later →
        commit.commits = true →
        ∃ before opening cycle, earlier = before ++ .turn opening :: cycle ∧
          opening.worker.phase = .openingCycle ∧ OnlyPolls cycle ∧
          inventoriesIn cycle = opening.worker.attempts ∧
          checksIn cycle = opening.worker.attempts ∧
          (∀ turn ∈ turnsOf cycle, turn.worker.stopRequested = false) ∧
          (∀ turn ∈ turnsOf cycle, ∀ failure, turn.advance.next.phase ≠ .leaving failure) ∧
          ∀ key ∈ commit.advance.core.tags.snapshot.keys,
            Absorbed cycle key ∧ key ∈ commit.advance.core.tags.accumulated.keys) ∧
      (∀ before opening rest, moments = before ++ .turn opening :: rest →
        opening.worker.phase = .openingCycle → commitsOf rest = [] →
        last.core.tags.snapshot = opening.core.tags.snapshot) ∧
      ∀ earlier turn later count, moments = earlier ++ .turn turn :: later →
        turn.count? = some count →
        turn.advance.next.phase =
            (if count = 0 then .checkingStop else .asking (.buffer count) .opening) ∧
          (count = 0 ∨ ∃ before reset since, earlier = before ++ .turn reset :: since ∧
            reset.worker.phase = .asking .count .opening ∧
            (∀ turn ∈ turnsOf since, turn.worker.phase.counts = true) ∧
            (tagCountsIn since).getLast? = some count) := by
  intro moments
  have hdrained : system.core.session.Drained := hreachable.sound.drained
  obtain ⟨worker, -, hcourse⟩ := course_of_solo hworker hsolo hrun
  change Course _ _ _ moments _ _ at hcourse
  refine ⟨hcourse.snapshot_eq hdrained, ?_, ?_, ?_⟩
  · intro earlier commit later hsplit hcommits
    rw [hsplit] at hcourse
    have hcommitting := Turn.commits_iff.mp hcommits
    obtain ⟨before, opening, cycle, rfl, hopening, hbefore, hopened, hcycle, honly, hpolling⟩ :=
      hcourse.cycle_of_commit hcommitting
    have hempty : opening.advance.core.tags.inProgress = .empty := by
      rw [Worker.step_tags hopened, Worker.operation?, hopening]
      rfl
    have hsettling : opening.advance.next.phase = .settling := by
      rw [(Worker.step_flow hopened).from_openingCycle hopening]
    have hsourced :=
      hcycle.sourced ((hbefore.turn hopened).drained hdrained) hempty hsettling honly
    obtain ⟨hasked, hchecked, hcalm⟩ := hpolling.complete hcommitting
    refine ⟨before, opening, cycle, rfl, hopening, honly, hasked, hchecked, hcalm,
      hcycle.unfailing honly (.inr hcommitting), ?_⟩
    rw [Worker.tags_of_commit hcommitting hcourse.turn_split.2]
    exact hsourced.inProgress
  · intro before opening rest hsplit hopening hnone
    rw [hsplit] at hcourse
    exact hcourse.snapshot_of_uncommitted hdrained hopening hnone
  · intro earlier turn later count hsplit hcount
    rw [hsplit] at hcourse
    exact ⟨turn.next_of_count hcount hcourse.turn_split.2,
      hcourse.count_case hdrained rfl hcount⟩

/-- A reader that finds one tag. -/
private def tagThatStays : Poll :=
  ⟨0xFF, ⟨0, 1, 10, 1⟩, [⟨[0xE2, 0xA0], 0x3000, 0x1234, 0x40, 0x05, 1⟩]⟩

/-- A tag is read directly in the pause before the poll, which then finds another one. -/
private def passerby : List Action :=
  proceeding 3 ++
    arriving (.make broadcastAddress Command.read.code
      (encodeReadRecord 1 0x3000 0x1234 [0xE2, 0xA1] [] 0x40 1)) ++
    expiring :: proceeding 3 ++ expiring :: proceeding 3 ++
    arriving tagThatStays.countFrame ++ proceeding 5 ++
    tagThatStays.sightings.flatMap (fun sighting =>
      arriving (tagThatStays.recordFrame sighting)) ++
    proceeding 4

theorem cycles_of_passerby :
    let system := (initial .standard true).after (launching (.runBounded 1 false))
    system.roster.worker? 0 = some (.spawn (.bounded 1 false)) ∧ Solo 0 passerby ∧
      countsOf (system.trace 0 passerby) = [1] ∧
      ∃ last log, system.run passerby = some (last, log) ∧
        last.core.tags.accumulated.keys = ["E2A0", "E2A1"] ∧
        last.core.tags.snapshot.keys = ["E2A0"] := by
  intro system
  have hworker : system.roster.worker? 0 = some (.spawn (.bounded 1 false)) := by
    decide +kernel
  have hsolo : Solo 0 passerby := by
    decide +kernel
  obtain ⟨_, hspawning⟩ :=
    run_after (initial .standard true) (launching (.runBounded 1 false)) (by decide +kernel)
  obtain ⟨log, hrun⟩ := run_after system passerby (by decide +kernel)
  obtain ⟨hsnapshot, -⟩ := cycles_of_solo ⟨_, _, hspawning⟩ hworker hsolo hrun
  refine ⟨hworker, hsolo, by decide +kernel, _, log, hrun, by decide +kernel, ?_⟩
  rw [hsnapshot]
  decide +kernel

end System

end TagInventory
