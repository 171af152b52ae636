import TagInventory.Proofs.Engine.Standing

/-!
# Bounded runs

The contract of a bounded run: which frames it writes, which cycles it commits, and when it
reports what.  The main statement holds of every run of a system with any number of other
workers.

`Course.standing` says how far the run has come.  Two things are added here: where the contents
of a report come from (`Course.collected`), and that a run whose cycles are all committed comes
to its end by itself (`Standing.ends`).
-/

namespace TagInventory

/-- The way to a report is collecting its contents, unless it is a change. -/
theorem Worker.Flow.into_reporting {core : Core} {worker next : Worker} {choice : Choice}
    {frames : List Frame} (h : Flow core worker choice frames next)
    (hplan : ∀ requireFinalResult, worker.plan ≠ .continuous requireFinalResult) {report : Report}
    (hnext : next.phase = .reporting report) :
    worker.phase = .collecting ∧ report = finalReport worker.plan core.tags := by
  cases h with
  | collected hphase =>
      cases hnext
      exact ⟨hphase, rfl⟩
  | committed =>
      cases hworker : worker.plan with
      | continuous requireFinalResult => exact absurd hworker (hplan requireFinalResult)
      | bounded cycles diagnostic => simp [afterCommit, goto, hworker] at hnext
      | idle => simp [afterCommit, goto, hworker] at hnext
  | reported => cases hworker : worker.plan <;> simp [afterReport, goto, hworker] at hnext
  | _ => cases hnext

/-- A report at the end of a run or of an idle cycle was collected from the views. -/
theorem Course.collected {Aside : Core → Core → Prop} {start core : Core}
    {spawned worker : Worker} {moments : List Moment}
    (h : Course Aside start spawned moments core worker)
    (hplan : ∀ requireFinalResult, spawned.plan ≠ .continuous requireFinalResult)
    (hfresh : ∀ report, spawned.phase ≠ .reporting report) {report : Report}
    (hphase : worker.phase = .reporting report) :
    ∃ earlier collecting later, moments = earlier ++ .turn collecting :: later ∧
      collecting.worker.phase = .collecting ∧
      report = Worker.finalReport spawned.plan collecting.core.tags := by
  have hflow {moments : List Moment} {turn : Turn}
      (h : Course Aside start spawned moments turn.core turn.worker)
      (hstep : turn.worker.step turn.core turn.choice = some turn.advance)
      (hnext : turn.advance.next.phase = .reporting report) :
      turn.worker.phase = .collecting ∧
        report = Worker.finalReport spawned.plan turn.core.tags := by
    rw [← h.plan_eq] at hplan ⊢
    exact (Worker.step_flow hstep).into_reporting hplan hnext
  obtain ⟨earlier, collecting, later, hsplit, hcollecting, -⟩ :=
    h.entered (· = .reporting report) (hfresh report)
      (fun h hstep hnext => (.inl (hflow h hstep hnext) : _ ∨ _ ∧ False)) hphase
  exact ⟨earlier, collecting, later, hsplit, hcollecting⟩

/-! ## The end of a run -/

/-- A worker comes to its end by itself, whatever the reader does. -/
inductive Worker.Ends : Core → Worker → Prop
  | now {core : Core} {worker : Worker} (h : worker.phase = .exited) : Ends core worker
  | step {core : Core} {worker : Worker} {advance : Advance Worker}
      (hstep : worker.step core .proceed = some advance)
      (hnext : Ends advance.core advance.next) : Ends core worker

namespace Worker

variable {core : Core} {worker : Worker} {cycles : UInt64} {diagnostic : Bool}

private theorem ends_over (h : worker.phase.IsOver) : Ends core worker := by
  obtain ⟨plan, phase, stopRequested, completed, attempt, attempts, interval⟩ := worker
  rcases h with rfl | ⟨failure, rfl⟩
  · exact .now rfl
  · exact .step rfl (.now rfl)

private theorem ends_collecting (hplan : worker.plan = .bounded cycles diagnostic)
    (hphase : worker.phase = .collecting ∨ ∃ report, worker.phase = .reporting report) :
    Ends core worker := by
  obtain ⟨plan, phase, stopRequested, completed, attempt, attempts, interval⟩ := worker
  obtain rfl : plan = .bounded cycles diagnostic := hplan
  rcases hphase with rfl | ⟨report, rfl⟩
  · exact .step rfl (.step rfl (ends_over (.inr ⟨none, rfl⟩)))
  · exact .step rfl (ends_over (.inr ⟨none, rfl⟩))

private theorem ends_choosing (hplan : worker.plan = .bounded cycles diagnostic)
    (hphase : worker.phase = .choosing) (hdone : ¬worker.completed < cycles.toNat) :
    Ends core worker := by
  have hstep : worker.step core .proceed =
      some ⟨core, worker.goto .collecting, [.noted .runCompleted]⟩ := by
    unfold step
    simp only [hphase, hplan, if_neg hdone]
    rfl
  exact .step hstep (ends_collecting hplan (.inl rfl))

private theorem ends_spacing (hplan : worker.plan = .bounded cycles diagnostic)
    (hphase : worker.phase = .spacing) (hdone : ¬worker.completed + 1 < cycles.toNat) :
    Ends core worker := by
  have hstep : worker.step core .proceed =
      some ⟨core, { worker with
        phase := .choosing, completed := worker.completed + 1, interval := core.pollInterval },
        []⟩ := by
    unfold step
    simp only [hphase, hplan, if_neg hdone]
    rw [← hplan]
    rfl
  exact .step hstep (ends_choosing hplan rfl hdone)

private theorem ends_starting (hplan : worker.plan = .bounded cycles diagnostic)
    (hphase : worker.phase = .starting) (hdone : ¬worker.completed < cycles.toNat) :
    Ends core worker := by
  have hstep : ∃ after events,
      worker.step core .proceed = some ⟨after, worker.goto .choosing, events⟩ := by
    unfold step
    simp only [hphase, hplan]
    exact ⟨_, _, rfl⟩
  obtain ⟨after, events, hstep⟩ := hstep
  exact .step hstep (ends_choosing hplan rfl hdone)

end Worker

/-- A report is due when all cycles are committed and all blocks are written. -/
theorem Standing.complete {config : EngineConfig} {cycles : Nat} {moments : List Moment}
    {worker : Worker} (h : Standing config cycles moments worker)
    (hphase : worker.phase = .collecting ∨ ∃ report, worker.phase = .reporting report) :
    (commitsOf moments).length = cycles ∧ (countsOf moments).length = cycles ∧
      writtenIn moments = (countsOf moments).flatMap (pollBlock config) := by
  have hnot : ¬worker.phase.IsOver ∧ worker.phase ≠ .checkingStop := by
    unfold WorkerPhase.IsOver
    rcases hphase with hphase | ⟨report, hphase⟩ <;> simp [hphase]
  cases h with
  | underway h =>
      have hallows := h.allows
      have hcommits := h.length_commits
      have hcounts := h.length_counts
      have hwritten := h.written_eq
      -- behind the cycles nothing is asked or counted any more
      have hpart : worker.phase.part config = ⟨[], [], 0, 0⟩ ∧ worker.completed = cycles := by
        rcases hphase with hphase | ⟨report, hphase⟩ <;> rw [hphase] at hallows ⊢ <;>
          exact ⟨rfl, hallows⟩
      rw [hpart.1, hpart.2] at hcommits hcounts
      rw [hpart.1, List.append_nil, List.append_nil] at hwritten
      exact ⟨hcommits, hcounts, hwritten⟩
  | hurried hchecking => exact absurd hchecking hnot.2
  | abandoned hover | done hover => exact absurd hover hnot.1

namespace Standing

variable {config : EngineConfig} {cycles : Nat} {moments : List Moment} {worker : Worker}

theorem prefixed (h : Standing config cycles moments worker) : Prefixed config cycles moments := by
  cases h with
  | underway h => exact h.prefixed
  | hurried hphase hstop h => exact h.prefixed
  | abandoned hover hprefixed => exact hprefixed
  | done hover hprefixed => exact hprefixed

theorem commits_le (h : Standing config cycles moments worker) :
    (commitsOf moments).length ≤ cycles := by
  cases h with
  | underway h => exact h.commits_le
  | hurried hphase hstop h => exact h.commits_le
  | abandoned hover hprefixed hcommits => exact Nat.le_of_lt hcommits
  | done hover hprefixed hcommits => exact Nat.le_of_eq hcommits

theorem reports_le (h : Standing config cycles moments worker) :
    (reportedIn moments).length ≤ 1 := by
  cases h with
  | underway h => simp [h.reported_eq]
  | hurried hphase hstop h => simp [h.reported_eq]
  | abandoned hover hprefixed hcommits hreported => simp [hreported]
  | done hover hprefixed hcommits hreported => exact Nat.le_of_eq hreported

theorem exited_case (h : Standing config cycles moments worker)
    (hphase : worker.phase = .exited) :
    ((commitsOf moments).length < cycles ∧ reportedIn moments = []) ∨
      ((commitsOf moments).length = cycles ∧ (reportedIn moments).length = 1 ∧
        Uninterrupted moments) := by
  cases h with
  | underway h =>
      have hallows := h.allows
      rw [hphase] at hallows
      exact hallows.elim
  | hurried hchecking =>
      rw [hphase] at hchecking
      cases hchecking
  | abandoned hover hprefixed hcommits hreported => exact .inl ⟨hcommits, hreported⟩
  | done hover hprefixed hcommits hreported huninterrupted =>
      exact .inr ⟨hcommits, hreported, huninterrupted⟩

end Standing

/-- When all cycles are committed, the run comes to its end by itself. -/
theorem Standing.ends {config : EngineConfig} {cycles : UInt64} {diagnostic : Bool}
    {moments : List Moment} {worker : Worker} {core : Core}
    (h : Standing config cycles.toNat moments worker)
    (hplan : worker.plan = .bounded cycles diagnostic)
    (hcommits : (commitsOf moments).length = cycles.toNat) : worker.Ends core := by
  cases h with
  | underway h =>
      have hallows := h.allows
      have hlength := h.length_commits
      rw [hcommits] at hlength
      cases hphase : worker.phase with
      | starting =>
          rw [hphase] at hlength
          exact Worker.ends_starting hplan hphase (Nat.not_lt_of_le (Nat.le_of_eq hlength))
      | choosing =>
          rw [hphase] at hlength
          exact Worker.ends_choosing hplan hphase (Nat.not_lt_of_le (Nat.le_of_eq hlength))
      | spacing =>
          rw [hphase] at hlength
          exact Worker.ends_spacing hplan hphase (Nat.not_lt_of_le (Nat.le_of_eq hlength))
      | collecting => exact Worker.ends_collecting hplan (.inl hphase)
      | reporting report => exact Worker.ends_collecting hplan (.inr ⟨report, hphase⟩)
      | asking stage exchange =>
          have hnone : (WorkerPhase.part config (.asking stage exchange)).committed = 0 := by
            cases stage <;> rfl
          rw [hphase] at hallows hlength
          rw [hnone] at hlength
          exact absurd hlength (Nat.ne_of_gt hallows)
      | leaving failure => exact Worker.ends_over (.inr ⟨failure, hphase⟩)
      | exited => exact .now hphase
      | _ =>
          rw [hphase] at hallows hlength
          first
            | exact hallows.elim
            | exact absurd hlength (Nat.ne_of_gt hallows)
  -- a stop that is obeyed leaves a cycle uncommitted
  | hurried hphase hstop h =>
      have hless : worker.completed < cycles.toNat := h.allows
      have hlength := h.length_commits
      rw [hcommits] at hlength
      exact absurd hlength (Nat.ne_of_gt hless)
  | abandoned hover hprefixed hless => exact absurd hcommits (Nat.ne_of_lt hless)
  | done hover => exact Worker.ends_over hover

namespace System

variable {system last : System} {run : RunId} {cycles : UInt64} {diagnostic : Bool}
  {actions : List Action} {log : List Event}

/-- A worker that comes to its end by itself does so in every system. -/
theorem run_of_ends {core : Core} {worker : Worker} (h : worker.Ends core)
    (hcore : system.core = core) (hworker : system.roster.worker? run = some worker) :
    ∃ steps last log,
      system.run (List.replicate steps (.step (.worker run) .proceed)) = some (last, log) ∧
        (last.roster.worker? run).any Worker.exited = true := by
  induction h generalizing system with
  | now h => exact ⟨0, system, [], rfl, by simp [hworker, Worker.exited, h]⟩
  | @step core worker advance hstep hnext ih =>
      -- the worker takes the step by itself, whatever the others do
      let moved : System := { system with
        engine := { system.engine with
          core := advance.core
          roster := system.roster.setWorker run advance.next } }
      have hset : moved.roster.worker? run = some advance.next := by
        show (system.roster.setWorker run advance.next).worker? run = _
        rw [Roster.worker?_setWorker run run _ (by rw [hworker]; rfl), if_pos rfl]
      have hkept : moved.core = advance.core := rfl
      have hmoved : system.step (.step (.worker run) .proceed) = some (moved, advance.events) := by
        rw [System.step, stepWorker, hworker, Option.bind_some, hcore, hstep, Option.map_some]
      obtain ⟨steps, last, log, hrun, hexited⟩ := ih hkept hset
      refine ⟨steps + 1, last, advance.events ++ log, ?_, hexited⟩
      rw [List.replicate_succ, run_cons, hmoved, Option.bind_some]
      dsimp only
      rw [hrun, Option.map_some]

/-- What is reported in a turn, and when. -/
private theorem turn_of_reports {start core : Core} {worker : Worker} {moments : List Moment}
    (h : Course (fun core after => after.config = core.config) start
      (.spawn (.bounded cycles diagnostic)) moments core worker) :
    ∀ earlier turn later, moments = earlier ++ .turn turn :: later → turn.reports ≠ [] →
      (commitsOf earlier).length = cycles.toNat ∧ (countsOf earlier).length = cycles.toNat ∧
        writtenIn earlier = (countsOf earlier).flatMap (pollBlock start.config) ∧
        ∃ before collecting between, earlier = before ++ .turn collecting :: between ∧
          (commitsOf before).length = cycles.toNat ∧
          turn.reports = [if diagnostic then .occurrences collecting.core.tags.occurrences.counts
            else .contents collecting.core.tags.accumulated.counts] := by
  rintro earlier turn later rfl hreports
  obtain ⟨hearlier, hstep⟩ := h.turn_split
  have hmade : turn.reports = turn.worker.phase.reports := Worker.step_reports hstep
  have hphase : ∃ report, turn.worker.phase = .reporting report := by
    rw [hmade] at hreports
    unfold WorkerPhase.reports at hreports
    split at hreports
    · exact ⟨_, ‹_›⟩
    · exact absurd rfl hreports
  obtain ⟨hcommits, hcounts, hwritten⟩ := hearlier.standing.complete (.inr hphase)
  obtain ⟨report, hphase⟩ := hphase
  -- the contents were collected in the turn before
  obtain ⟨before, collecting, between, rfl, hcollecting, hreport⟩ :=
    hearlier.collected (by rintro _ ⟨⟩) (by rintro _ ⟨⟩) hphase
  refine ⟨hcommits, hcounts, hwritten, before, collecting, between, rfl, ?_, ?_⟩
  · exact (hearlier.turn_split.1.standing.complete (.inl hcollecting)).1
  · rw [hmade, hphase, WorkerPhase.reports, hreport]
    cases diagnostic <;> rfl

/-- **The contract of a bounded run.**  A run of `n` cycles is spawned, and any actions follow,
of any threads, with any answers of the reader, any settings, stops and failures.  Then

* the frames that its worker has written are the first ones of `n` blocks, one for each poll:
  an inventory request with the configured number of rounds, a request for the count, and a
  request for the buffer exactly when the wait for the count was completed and the count is not
  zero.  This is so whatever the counts of the polls to come will be;
* at most `n` cycles are committed;
* at most one report is made, and it is no change.  Before it all cycles were committed and all
  blocks were written, and it holds what is then in the views: the occurrences in a diagnostic
  run, and otherwise the accumulated tags;
* a run that is over has made its report if and only if all cycles were committed and no pause
  between them was ended by a stop;
* as soon as all cycles are committed (for no cycles, at once) the worker comes to its end by
  itself, and has then made its report. -/
theorem contract_of_boundedRun
    (hworker : system.roster.worker? run = some (.spawn (.bounded cycles diagnostic)))
    (hrun : system.run actions = some (last, log)) :
    let n := cycles.toNat
    let block := pollBlock system.core.config
    let moments := system.trace run actions
    ((countsOf moments).length ≤ n ∧
        ∀ later, (countsOf moments).length + later.length = n →
          writtenIn moments <+: (countsOf moments ++ later).flatMap block) ∧
      (commitsOf moments).length ≤ n ∧
      (reportedIn moments).length ≤ 1 ∧
      (∀ report ∈ reportedIn moments, report.isChange = false) ∧
      (∀ earlier turn later, moments = earlier ++ .turn turn :: later → turn.reports ≠ [] →
        (commitsOf earlier).length = n ∧ (countsOf earlier).length = n ∧
          writtenIn earlier = (countsOf earlier).flatMap block ∧
          ∃ before collecting between, earlier = before ++ .turn collecting :: between ∧
            (commitsOf before).length = n ∧
            turn.reports = [if diagnostic then .occurrences collecting.core.tags.occurrences.counts
              else .contents collecting.core.tags.accumulated.counts]) ∧
      ((last.roster.worker? run).any Worker.exited = true →
        (reportedIn moments ≠ [] ↔ (commitsOf moments).length = n ∧ Uninterrupted moments)) ∧
      ((commitsOf moments).length = n →
        ∃ steps final later,
          last.run (List.replicate steps (.step (.worker run) .proceed)) = some (final, later) ∧
            (final.roster.worker? run).any Worker.exited = true ∧
            (reportedIn (system.trace run
              (actions ++ List.replicate steps (.step (.worker run) .proceed)))).length = 1) := by
  intro n block moments
  obtain ⟨worker, hmoved, hcourse⟩ := course_of_run hworker hrun
  have hstanding := hcourse.standing
  have hturn := turn_of_reports hcourse
  refine ⟨hstanding.prefixed, hstanding.commits_le, hstanding.reports_le, ?_, hturn, ?_, ?_⟩
  · intro report hreport
    obtain ⟨turn, hmem, hmade⟩ := List.mem_flatMap.mp hreport
    obtain ⟨earlier, later, hsplit⟩ := split_of_mem_turnsOf hmem
    obtain ⟨-, -, -, before, collecting, between, -, -, heq⟩ :=
      hturn earlier turn later hsplit (List.ne_nil_of_mem hmade)
    rw [heq, List.mem_singleton] at hmade
    rw [hmade]
    cases diagnostic <;> rfl
  · intro hexited
    rw [hmoved] at hexited
    obtain ⟨hless, hnone⟩ | ⟨hcommits, hone, huninterrupted⟩ :=
      hstanding.exited_case (by simpa [Worker.exited] using hexited)
    · constructor
      · exact fun hne => absurd hnone hne
      · exact fun hall => absurd hall.1 (Nat.ne_of_lt hless)
    · refine ⟨fun _ => ⟨hcommits, huninterrupted⟩, fun _ => ?_⟩
      exact List.ne_nil_of_length_pos (by rw [hone]; exact Nat.one_pos)
  · intro hcommits
    obtain ⟨steps, final, later, hlater, hexited⟩ :=
      run_of_ends (hstanding.ends hcourse.plan_eq hcommits) rfl hmoved
    refine ⟨steps, final, later, hlater, hexited, ?_⟩
    obtain ⟨ended, hended, hwhole⟩ := course_of_run hworker (run_append hrun hlater)
    rw [hended] at hexited
    obtain ⟨hless, -⟩ | ⟨-, hone, -⟩ :=
      hwhole.standing.exited_case (by simpa [Worker.exited] using hexited)
    · rw [trace_append hrun, commitsOf_append, List.length_append, hcommits] at hless
      exact absurd (Nat.le_add_right _ _) (Nat.not_le_of_lt hless)
    · exact hone

/-- In the first cycle one tag is counted and read from the buffer; in the second one the reader
answers nothing. -/
private def oneTagThenNone : List Action :=
  proceeding 3 ++ expiring :: proceeding 3 ++ expiring :: proceeding 3 ++
    arriving (.make 0xFF 0x92 [0, 1]) ++ proceeding 5 ++
    arriving (.make 0xFF 0x91 [0, 1, 5, 0x30, 0, 1, 0x12, 0x34, 0x50, 1, 1]) ++ proceeding 5 ++
    expiring :: proceeding 2 ++ expiring :: proceeding 3 ++ expiring :: proceeding 3 ++
    expiring :: proceeding 7

theorem contract_of_oneTagThenNone :
    let system := (initial .standard true).after (launching (.runBounded 2 false))
    let moments := system.trace 0 oneTagThenNone
    system.roster.worker? 0 = some (.spawn (.bounded 2 false)) ∧
      (system.run oneTagThenNone).isSome = true ∧ countsOf moments = [1, 0] ∧
      writtenIn moments <+: pollBlock .standard 1 ++ pollBlock .standard 0 ∧
      reportedIn moments ≠ [] := by
  intro system moments
  have hworker : system.roster.worker? 0 = some (.spawn (.bounded 2 false)) := by
    decide +kernel
  have hpossible : (system.run oneTagThenNone).isSome = true := by
    decide +kernel
  obtain ⟨log, hrun⟩ := run_after system oneTagThenNone hpossible
  obtain ⟨⟨-, hwritten⟩, -, -, -, -, hreported, -⟩ := contract_of_boundedRun hworker hrun
  have hcounts : countsOf moments = [1, 0] := by
    decide +kernel
  have hconfig : system.core.config = .standard := by
    decide +kernel
  refine ⟨hworker, hpossible, hcounts, ?_, ?_⟩
  · have hall := hwritten [] (by rw [hcounts]; rfl)
    rw [hcounts, hconfig, List.append_nil, List.flatMap_cons, List.flatMap_singleton] at hall
    exact hall
  · refine (hreported (by decide +kernel)).mpr ⟨by decide +kernel, ?_⟩
    unfold Uninterrupted
    decide +kernel

end System

end TagInventory
