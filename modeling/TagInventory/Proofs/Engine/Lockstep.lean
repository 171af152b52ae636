import TagInventory.Proofs.Engine.Commits
import TagInventory.Proofs.Engine.Inventory
import TagInventory.Proofs.Engine.Polling

/-!
# Changes and snapshots in lockstep

A continuous run whose result counts reports the difference of every cycle that it commits.
Whoever applies the reports in order to the snapshot at the start has the snapshot at the end,
whatever the reader answers and whenever a stop arrives.

## Strategy

* A change brings one ascending list of texts to another one (`applyTo`), and the reports of
  some cycles bring the first to the last (`foldl_changeReports`).
* `Ledger` relates three things at every moment of a run: the reports that were made, the
  report that the worker is about to make, and the snapshots that were committed.  It changes
  in a turn that commits a cycle and in the turn after it, and nowhere else.
* How often a cycle asks for an inventory is counted in `Polling`.  The number of its polls is
  read in the turn before it begins (`Course.tuned`).
-/

namespace TagInventory

/-! ## Changes -/

/-- What the texts are after a report. -/
def Report.applyTo (texts : List String) : Report → List String
  | change removed added => sortedSet ((texts.filter fun text => text ∉ removed) ++ added)
  | contents _ | occurrences _ => texts

/-- The report of two cycles brings the tags of the first to those of the second. -/
theorem foldl_changeReport {before now : List String} (hbefore : before.Pairwise (· < ·))
    (hnow : now.Pairwise (· < ·)) :
    (changeReport before now).foldl Report.applyTo before = now := by
  rw [changeReport]
  split
  · rename_i hsame
    -- nothing left and nothing came
    have hset : ∀ text, text ∈ before ↔ text ∈ now := by
      intro text
      have hremoved : text ∉ sortedSet (before.filter fun text => text ∉ now) := by
        rw [hsame.1]
        exact List.not_mem_nil
      have hadded : text ∉ sortedSet (now.filter fun text => text ∉ before) := by
        rw [hsame.2]
        exact List.not_mem_nil
      simp only [mem_sortedSet, List.mem_filter, decide_not, Bool.not_eq_true',
        decide_eq_false_iff_not, not_and, not_not] at hremoved hadded
      exact ⟨hremoved, hadded⟩
    calc before = sortedSet now := eq_sortedSet hbefore hset
      _ = now := (eq_sortedSet hnow fun _ => Iff.rfl).symm
  · refine (eq_sortedSet hnow ?_).symm
    intro text
    simp only [List.mem_append, List.mem_filter, mem_sortedSet, decide_not, Bool.not_eq_true',
      decide_eq_false_iff_not]
    tauto

/-- The reports of some cycles bring the tags before them to those of the last one. -/
theorem foldl_changeReports (before : View) (later : List View) :
    (changeReports before.keys (later.map View.keys)).foldl Report.applyTo before.keys =
      (later.getLastD before).keys := by
  induction later generalizing before with
  | nil => rfl
  | cons now later ih =>
      rw [List.map_cons, changeReports, List.foldl_append,
        foldl_changeReport before.pairwise_keys now.pairwise_keys, ih, List.getLastD_cons]

theorem changeReports_concat (before : View) (later : List View) (now : View) :
    changeReports before.keys ((later ++ [now]).map View.keys) =
      changeReports before.keys (later.map View.keys) ++
        changeReport (later.getLastD before).keys now.keys := by
  induction later generalizing before with
  | nil => exact List.append_nil _
  | cons first later ih =>
      rw [List.cons_append, List.map_cons, changeReports, ih, List.map_cons, changeReports,
        List.getLastD_cons, List.append_assoc]

theorem isChange_of_mem_changeReports {before : List String} {later : List (List String)}
    {report : Report} (h : report ∈ changeReports before later) : report.isChange = true := by
  induction later generalizing before with
  | nil => cases h
  | cons now later ih =>
      rw [changeReports, List.mem_append] at h
      rcases h with h | h
      · rw [changeReport] at h
        split at h
        · cases h
        · rw [List.mem_singleton] at h
          rw [h]
          rfl
      · exact ih h

/-! ## Places of a continuous run -/

/-- The places of a run that goes on until it is stopped. -/
def WorkerPhase.continues : WorkerPhase → Bool
  | idling | waking | collecting => false
  | _ => true

namespace Worker

variable {core : Core} {worker next : Worker} {choice : Choice} {frames : List Frame}
  {requireFinalResult : Bool}

/-- A continuous run stays in its places.  A report is due behind a commit, and only there. -/
theorem Flow.continues (h : Flow core worker choice frames next)
    (hplan : worker.plan = .continuous requireFinalResult)
    (hplace : worker.phase.continues = true) :
    next.phase.continues = true ∧ next.phase.reports =
      if worker.phase = .committing then
        if requireFinalResult ∧ !core.tags.difference.isEmpty then
          [.change core.tags.difference.removed core.tags.difference.added]
        else []
      else [] := by
  cases h with
  | committed hphase =>
      simp only [goto, afterCommit, hplan, hphase, if_true]
      split
      · exact ⟨rfl, rfl⟩
      · exact ⟨rfl, rfl⟩
  | reported hphase => simp [goto, afterReport, hplan, hphase, WorkerPhase.continues,
      WorkerPhase.reports]
  | rested hphase hidle =>
      rw [hplan] at hidle
      cases hidle
  | scheduled hphase hbounded | finished hphase hbounded | spaced hphase hbounded =>
      rw [hplan] at hbounded
      cases hbounded
  | woke hphase | roused hphase | collected hphase =>
      rw [hphase] at hplace
      cases hplace
  | stopped hphase =>
      rcases hphase with hphase | hphase | hphase
      all_goals simp [goto, hphase, WorkerPhase.continues, WorkerPhase.reports]
  | begun hphase | continued hphase | ceased hphase | tuned hphase | opened hphase
  | settled hphase | hurried hphase | registered hphase | checked hphase | wrote hphase
  | failed hphase | inventoried hphase | counted hphase | uncounted hphase | empty hphase
  | found hphase | read hphase | absorbed hphase | again hphase | polled hphase
  | unspaced hphase | resumed hphase | left hphase =>
      simp [goto, hphase, WorkerPhase.continues, WorkerPhase.reports]

/-- A cycle of a continuous run begins after the tunables were read. -/
theorem Flow.into_openingCycle (h : Flow core worker choice frames next)
    (hplan : worker.plan = .continuous requireFinalResult)
    (hplace : worker.phase.continues = true) (hnext : next.phase = .openingCycle) :
    worker.phase = .tuning ∧ next.attempts = max (worker.plan.polls core) 1 := by
  cases h with
  | tuned hphase => exact ⟨hphase, rfl⟩
  | scheduled hphase hbounded =>
      rw [hplan] at hbounded
      cases hbounded
  | roused hphase =>
      rw [hphase] at hplace
      cases hplace
  | committed hphase =>
      simp only [goto, afterCommit, hplan] at hnext
      split at hnext <;> cases hnext
  | reported hphase =>
      simp only [goto, afterReport, hplan] at hnext
      cases hnext
  | _ => cases hnext

end Worker

/-! ## Reports and commits -/

/-- The reports up to now, and the one that is due, are those of the snapshots that were
committed. -/
def Ledger (requireFinalResult : Bool) (before : View) (moments : List Moment)
    (worker : Worker) : Prop :=
  reportedIn moments ++ worker.phase.reports =
    if requireFinalResult then changeReports before.keys ((snapshotsIn moments).map View.keys)
    else []

namespace Course

variable {Aside : Core → Core → Prop} {start core : Core} {spawned worker : Worker}
  {moments : List Moment} {requireFinalResult : Bool}

theorem continues (h : Course Aside start (.spawn (.continuous requireFinalResult)) moments core
    worker) : worker.phase.continues = true := by
  induction h with
  | nil => rfl
  | turn h hstep ih => exact ((Worker.step_flow hstep).continues h.plan_eq ih).1
  | byte h byte ih => exact ih
  | aside h hcore hworker ih =>
      rw [hworker.phase_eq]
      exact ih

/-- The number of polls of a cycle is read in the turn before it begins.  Nothing that happens
afterwards changes it. -/
theorem tuned (h : Course Aside start (.spawn (.continuous requireFinalResult)) moments core
    worker) (hphase : worker.phase = .openingCycle) :
    ∃ before tuning pause, moments = before ++ .turn tuning :: pause ∧
      tuning.worker.phase = .tuning ∧ turnsOf pause = [] ∧
      worker.attempts = max ((RunPlan.continuous requireFinalResult).polls tuning.core) 1 := by
  have hflow {moments : List Moment} {turn : Turn}
      (h : Course Aside start (.spawn (.continuous requireFinalResult)) moments turn.core
        turn.worker)
      (hstep : turn.worker.step turn.core turn.choice = some turn.advance)
      (hnext : turn.advance.next.phase = .openingCycle) :
      turn.worker.phase = .tuning ∧
        turn.advance.next.attempts =
          max ((RunPlan.continuous requireFinalResult).polls turn.core) 1 := by
    have hplan : turn.worker.plan = .continuous requireFinalResult := h.plan_eq
    rw [← hplan]
    exact (Worker.step_flow hstep).into_openingCycle hplan h.continues hnext
  obtain ⟨before, tuning, pause, hsplit, ⟨htuning, hattempts⟩, -, -, hpause, hturns⟩ :=
    h.entered (· = .openingCycle) nofun
      (fun h hstep hnext => (.inl (hflow h hstep hnext) : _ ∨ _ ∧ False)) hphase
  have hnone : turnsOf pause = [] := List.eq_nil_iff_forall_not_mem.mpr hturns
  exact ⟨before, tuning, pause, hsplit, htuning, hnone,
    (hpause.spared hnone).attempts_eq.trans hattempts⟩

/-- The reports of a continuous run are those of its commits. -/
theorem ledger (h : Course Core.Leaves start (.spawn (.continuous requireFinalResult)) moments
    core worker) (hdrained : start.session.Drained) :
    Ledger requireFinalResult start.tags.snapshot moments worker := by
  induction h with
  | nil => cases requireFinalResult <;> rfl
  | @turn moments core worker h choice advance hstep ih =>
      obtain ⟨-, hdue⟩ := (Worker.step_flow hstep).continues h.plan_eq h.continues
      have hmade : (Turn.mk core worker choice advance).reports = worker.phase.reports :=
        Worker.step_reports hstep
      rw [Ledger, reportedIn_concat_turn, hmade, ih, hdue, snapshotsIn_concat_turn]
      by_cases hphase : worker.phase = .committing
      · have hcommits : (Turn.mk core worker choice advance).commits = true :=
          Turn.commits_iff.mpr hphase
        have htags := Worker.tags_of_commit hphase hstep
        rw [if_pos hphase, if_pos hcommits]
        cases requireFinalResult with
        | false => rfl
        | true =>
            have hreport : changeReport core.tags.snapshot.keys core.tags.inProgress.keys =
                if core.tags.difference.isEmpty then []
                else [.change core.tags.difference.removed core.tags.difference.added] :=
              TagViews.changeReport_eq (fun _ => Iff.rfl) fun _ => Iff.rfl
            rw [if_pos rfl, if_pos rfl, changeReports_concat, ← h.snapshot_eq hdrained, htags]
            show _ = _ ++ changeReport core.tags.snapshot.keys core.tags.inProgress.keys
            rw [hreport]
            cases core.tags.difference.isEmpty <;> rfl
      · have hcommits : ¬(Turn.mk core worker choice advance).commits = true :=
          mt Turn.commits_iff.mp hphase
        rw [if_neg hphase, if_neg hcommits, List.append_nil, List.append_nil]
  | byte h byte ih =>
      rw [Ledger, reportedIn_concat_byte, snapshotsIn_concat_byte]
      exact ih
  | aside h hcore hworker ih =>
      rw [Ledger, hworker.phase_eq]
      exact ih

end Course

/-! ## Runs -/

namespace System

variable {config : EngineConfig} {connected : Bool} {system last : System} {run : RunId}
  {actions : List Action} {log : List Event} {requireFinalResult : Bool}

/-- The changes that an action shows are those of the moment that it is. -/
private theorem changesOf_step {next : System} {action : Action} {events : List Event}
    (hsolo : Solo run [action]) (h : system.step action = some (next, events)) :
    changesOf events =
      (reportedIn (system.moment? run action).toList).filter Report.isChange := by
  by_cases hown : ∃ other choice, action = .step (.worker other) choice
  · obtain ⟨other, choice, rfl⟩ := hown
    obtain rfl := hsolo other choice (List.mem_singleton_self _)
    obtain ⟨mover, advance, hmover, hadvance, rfl, rfl⟩ := stepWorker_case h
    have hmoment : system.moment? other (.step (.worker other) choice) =
        some (.turn ⟨system.core, mover, choice, advance⟩) := by
      rw [moment?, if_pos rfl, hmover, Option.bind_some, hadvance, Option.map_some]
    rw [hmoment]
    simp [reportedIn, turnsOf, Moment.turn?, Turn.reports, changesOf]
  · by_cases hbyte : ∃ byte, action = .receive byte
    · obtain ⟨byte, rfl⟩ := hbyte
      simp only [step] at h
      split at h <;> cases h
      rw [changesOf, reportsOf_of_notes (Core.notes_receiveEvents _ byte)]
      rfl
    · have hbystander : ∀ other choice, action ≠ .step (.worker other) choice :=
        fun other choice heq => hown ⟨other, choice, heq⟩
      have hquiet : ∀ byte, action ≠ .receive byte := fun byte heq => hbyte ⟨byte, heq⟩
      rw [moment?_of_isAside ⟨hbystander run, hquiet⟩,
        (step_of_bystander hbystander hquiet h).2.1]
      rfl

/-- The changes that a run of a single worker shows are those that its worker reports. -/
theorem changesOf_of_solo (hsolo : Solo run actions)
    (hrun : system.run actions = some (last, log)) :
    changesOf log = (reportedIn (system.trace run actions)).filter Report.isChange := by
  induction actions generalizing system log with
  | nil =>
      cases hrun
      rfl
  | cons action actions ih =>
      obtain ⟨next, events, later, hstep, hrest, rfl⟩ := run_cons_case hrun
      have hfirst : Solo run [action] := by
        intro other choice hmem
        exact hsolo other choice (List.mem_cons.mpr (.inl (List.mem_singleton.mp hmem)))
      have hothers : Solo run actions :=
        fun other choice hmem => hsolo other choice (List.mem_cons_of_mem _ hmem)
      rw [trace_cons hstep, changesOf_append, changesOf_step hfirst hstep, ih hothers hrest,
        ← List.filter_append]
      simp [reportedIn, turnsOf]

/-- **Changes and snapshots go in lockstep.**  A continuous run is spawned in any reachable
system, and any actions follow, of any threads but another worker, with any answers of the
reader, any settings, stops and failures.  Then

* when its result counts, the changes that were shown, with the one that its worker is about to
  show, are the differences that are not empty between each snapshot that was committed and
  the one before it, in order;
* applied in order to the snapshot at the start, they give the snapshot at the end;
* every cycle that was committed has asked for as many inventories as the number of polls that
  was read right before it began, and for at least one;
* when its result does not count, no change is shown at all, and every cycle that was
  committed has asked for one inventory. -/
theorem lockstep_of_continuousRun (hreachable : Reachable config connected system)
    (hworker : system.roster.worker? run = some (.spawn (.continuous requireFinalResult)))
    (hsolo : Solo run actions) (hrun : system.run actions = some (last, log)) :
    let moments := system.trace run actions
    let before := system.core.tags.snapshot
    ∃ worker, last.roster.worker? run = some worker ∧
      (changesOf log ++ worker.phase.reports =
        if requireFinalResult then changeReports before.keys ((snapshotsIn moments).map View.keys)
        else []) ∧
      (requireFinalResult = true →
        (changesOf log ++ worker.phase.reports).foldl Report.applyTo before.keys =
          last.core.tags.snapshot.keys) ∧
      ∀ earlier commit later, moments = earlier ++ .turn commit :: later →
        commit.commits = true →
        ∃ past tuning pause opening cycle,
          earlier = past ++ .turn tuning :: pause ++ .turn opening :: cycle ∧
            tuning.worker.phase = .tuning ∧ turnsOf pause = [] ∧
            opening.worker.phase = .openingCycle ∧ OnlyPolls cycle ∧
            inventoriesIn cycle =
              if requireFinalResult then max tuning.core.pollCount.toNat 1 else 1 := by
  intro moments before
  have hdrained : system.core.session.Drained := hreachable.sound.drained
  obtain ⟨worker, hmoved, hcourse⟩ := course_of_solo hworker hsolo hrun
  have hledger := hcourse.ledger hdrained
  have hshown : changesOf log = reportedIn moments := by
    rw [changesOf_of_solo hsolo hrun, List.filter_eq_self]
    intro report hmem
    have hall : report ∈ reportedIn moments ++ worker.phase.reports :=
      List.mem_append_left _ hmem
    rw [hledger] at hall
    cases requireFinalResult with
    | false => cases hall
    | true => exact isChange_of_mem_changeReports hall
  refine ⟨worker, hmoved, ?_, ?_, ?_⟩
  · rw [hshown]
    exact hledger
  · rintro rfl
    rw [hshown, hledger, if_pos rfl, foldl_changeReports, ← hcourse.snapshot_eq hdrained]
  · intro earlier commit later hsplit hcommits
    change system.trace run actions = _ at hsplit
    rw [hsplit] at hcourse
    have hcommitting := Turn.commits_iff.mp hcommits
    obtain ⟨begun, opening, cycle, rfl, hopening, hbegun, -, -, honly, hpolling⟩ :=
      hcourse.cycle_of_commit hcommitting
    obtain ⟨past, tuning, pause, rfl, htuning, hpause, hattempts⟩ := hbegun.tuned hopening
    refine ⟨past, tuning, pause, opening, cycle, rfl, htuning, hpause, hopening, honly, ?_⟩
    rw [(hpolling.complete hcommitting).1, hattempts]
    cases requireFinalResult <;> rfl

/-- A reader that finds one tag. -/
private def oneTag : Poll :=
  ⟨0xFF, ⟨0, 1, 10, 1⟩, [⟨[0xE2, 0xA0], 0x3000, 0x1234, 0x40, 0x05, 1⟩]⟩

/-- The first poll of a run finds the tag, and the change is reported. -/
private def tagArrives : List Action :=
  proceeding 4 ++ expiring :: proceeding 3 ++ expiring :: proceeding 3 ++
    arriving oneTag.countFrame ++ proceeding 5 ++
    oneTag.sightings.flatMap (fun sighting => arriving (oneTag.recordFrame sighting)) ++
    proceeding 5

theorem lockstep_of_arrivedTag :
    let system := (initial { EngineConfig.standard with pollCount := 1 } true).after
      (launching (.startContinuous true))
    system.roster.worker? 0 = some (.spawn (.continuous true)) ∧ Solo 0 tagArrives ∧
      ∃ last log, system.run tagArrives = some (last, log) ∧
        changesOf log = [.change [] ["E2A0"]] ∧ last.core.tags.snapshot.keys = ["E2A0"] := by
  intro system
  have hworker : system.roster.worker? 0 = some (.spawn (.continuous true)) := by
    decide +kernel
  have hsolo : Solo 0 tagArrives := by
    decide +kernel
  obtain ⟨_, hspawning⟩ := run_after (initial { EngineConfig.standard with pollCount := 1 } true)
    (launching (.startContinuous true)) (by decide +kernel)
  obtain ⟨log, hrun⟩ := run_after system tagArrives (by decide +kernel)
  obtain ⟨worker, hmoved, hchanges, happlied, -⟩ :=
    lockstep_of_continuousRun ⟨_, _, hspawning⟩ hworker hsolo hrun
  have hdue : worker.phase.reports = [] := by
    have hall : ((system.after tagArrives).roster.worker? 0).all
        (fun worker => worker.phase.reports.isEmpty) = true := by
      decide +kernel
    rw [hmoved] at hall
    exact List.isEmpty_iff.mp hall
  have hreports : changeReports system.core.tags.snapshot.keys
      ((snapshotsIn (system.trace 0 tagArrives)).map View.keys) = [.change [] ["E2A0"]] := by
    decide +kernel
  have hbefore : system.core.tags.snapshot.keys = [] := by
    decide +kernel
  have hshown : changesOf log = [.change [] ["E2A0"]] := by
    rw [hdue, List.append_nil, hreports] at hchanges
    exact hchanges
  refine ⟨hworker, hsolo, _, log, hrun, hshown, ?_⟩
  rw [← happlied rfl, hshown, hdue, hbefore]
  decide +kernel

end System

end TagInventory
