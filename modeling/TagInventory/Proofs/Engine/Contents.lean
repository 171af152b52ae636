import TagInventory.Proofs.Engine.Commits
import TagInventory.Proofs.Engine.Operations
import TagInventory.Proofs.Tag.Tally

/-!
# What a report of the contents counts

The contents that are reported were read from the views before: by a worker at the end of a run
or of an idle cycle, or by a thread that was asked for them.  Other tasks may act in between.

## Strategy

* `System.contentsOf`: what a task has read and not reported yet.  In a step of its own it reads
  the contents of this moment (`contents_of_own_step`), and while others take their steps it
  keeps them (`contentsOf_of_other_step`); by induction over the run they were read in its last
  step (`contents_read`).
* `System.tagHistory`: the operations on the views in a run, whoever does them.  The views are
  those of this history (`tags_run`), so that `Tag/Tally.lean` says what was counted.
-/

namespace TagInventory

/-! ## Contents on the way to the application -/

def Report.contents? : Report → Option Counts
  | .contents counts => some counts
  | .change .. | .occurrences _ => none

/-- The contents that are reported in the next step. -/
def WorkerPhase.contents? : WorkerPhase → Option Counts
  | .reporting report => report.contents?
  | _ => none

namespace Call

variable {engine : Engine} {thread : Thread} {choice : Choice}

theorem contents?_begin (operation : Operation) : operation.begin.contents? = none := by
  cases operation with
  | execute code payload | executeAndWait code payload =>
      simp only [Operation.begin, beginRaw]
      split <;> rfl
  | _ => rfl

private theorem contents?_ask {request : Request} {exchange : Exchange} {going : Exchange → Call}
    {ended : WaitOutcome → Call} {failed : Failure → Call} {advance : CallAdvance Call}
    (hgoing : ∀ exchange, (going exchange).contents? = none)
    (hended : ∀ outcome, (ended outcome).contents? = none)
    (hfailed : ∀ failure, (failed failure).contents? = none)
    (h : ask engine request exchange choice going ended failed = some advance) :
    advance.next.contents? = none := by
  rw [ask, Option.map_eq_some_iff] at h
  obtain ⟨inner, hinner, rfl⟩ := h
  cases Exchange.step_case hinner <;>
    first
    | exact hgoing _
    | exact hended _
    | exact hfailed _

/-- A thread has contents to report only when it has just read them. -/
theorem step_contents {call : Call} {advance : CallAdvance Call} {counts : Counts}
    (h : call.step engine thread choice = some advance)
    (hnext : advance.next.contents? = some counts) :
    counts = engine.core.tags.accumulated.counts := by
  cases call with
  | readingContents =>
      cases choice <;> cases h
      exact (Option.some.inj hnext).symm
  | asking request exchange | askingRegion exchange | askingPower region exchange
  | askingFirmware exchange =>
      cases (contents?_ask (fun _ => rfl) (fun _ => rfl) (fun _ => rfl) h).symm.trans hnext
  | starting plan step =>
      obtain ⟨plan', step', hstart⟩ | ⟨answer, hend, -⟩ := (starting_effect h).next_eq
      · rw [hstart] at hnext
        cases hnext
      · rw [hend] at hnext
        cases hnext
  | stopping step | closingRun step =>
      cases choice <;> cases step <;>
        simp only [Call.step, moveCore, reduceCtorEq, Option.map_eq_some_iff] at h
      case proceed.stopped =>
        cases h
        cases hnext
      all_goals
        obtain ⟨inner, hinner, rfl⟩ := h
        cases hnext
  | writing request =>
      simp only [Call.step, Option.map_eq_some_iff] at h
      obtain ⟨inner, hwrite, rfl⟩ := h
      unfold Core.write at hwrite
      split at hwrite <;> cases choice <;> cases hwrite <;> cases hnext
  | flushing =>
      simp only [Call.step] at h
      split at h <;> cases choice <;> cases h <;> cases hnext
  | _ =>
      cases choice <;> simp only [Call.step, moveCore, reduceCtorEq] at h <;>
        (try split at h) <;> cases h <;> cases hnext

/-- A thread reports the contents that it had to report, and nothing else. -/
theorem contents_of_reports {call : Call} {advance : CallAdvance Call} {report : Report}
    (h : call.step engine thread choice = some advance)
    (hmem : report ∈ reportsOf advance.events) :
    ∃ counts, call.contents? = some counts ∧ report = .contents counts := by
  rw [(step_leaves h).2, List.mem_map] at hmem
  obtain ⟨counts, hcounts, rfl⟩ := hmem
  exact ⟨counts, Option.mem_toList.mp hcounts, rfl⟩

end Call

namespace Worker

variable {core : Core} {worker : Worker} {choice : Choice} {advance : Advance Worker}

theorem contents?_finalReport {plan : RunPlan} {tags : TagViews} {counts : Counts}
    (h : (finalReport plan tags).contents? = some counts) : counts = tags.accumulated.counts := by
  unfold finalReport at h
  split at h
  · cases h
  · exact (Option.some.inj h).symm

/-- The way to a report of contents is reading them. -/
theorem Flow.contents_eq {frames : List Frame} {next : Worker}
    (h : Flow core worker choice frames next) {counts : Counts}
    (hnext : next.phase.contents? = some counts) : counts = core.tags.accumulated.counts := by
  cases h with
  | collected => exact contents?_finalReport hnext
  | committed =>
      have hnone : (worker.afterCommit core).contents? = none := by
        cases hplan : worker.plan with
        | continuous requireFinalResult =>
            simp only [afterCommit, hplan]
            split <;> rfl
        | bounded cycles diagnostic => simp only [afterCommit, hplan]; rfl
        | idle => simp only [afterCommit, hplan]; rfl
      cases hnone.symm.trans hnext
  | reported =>
      have hnone : worker.afterReport.contents? = none := by
        cases hplan : worker.plan <;> simp only [afterReport, hplan] <;> rfl
      cases hnone.symm.trans hnext
  | _ => cases hnext

theorem phase_of_reports (h : worker.step core choice = some advance) {report : Report}
    (hmem : report ∈ reportsOf advance.events) : worker.phase = .reporting report := by
  rw [step_reports h] at hmem
  cases hphase : worker.phase with
  | reporting own =>
      rw [hphase, WorkerPhase.reports, List.mem_singleton] at hmem
      rw [hmem]
  | _ =>
      rw [hphase] at hmem
      cases hmem

end Worker

theorem Action.task_of_thread? {action : Action} {thread : Thread} {task : Task}
    (hthread : action.thread? = some thread) (htask : action.task? = some task) :
    task = thread.task := by
  cases action with
  | step other choice =>
      obtain rfl : other = task := Option.some.inj htask
      cases other <;> cases hthread <;> rfl
  | _ => cases htask

namespace System

variable {system next : System} {action : Action} {events : List Event} {task : Task}
  {counts : Counts}

/-- The contents that a task has read and not reported yet. -/
def contentsOf (system : System) : Task → Option Counts
  | .caller name => (system.placeOf (.caller name)).bind Call.contents?
  | .control => (system.placeOf .control).bind Call.contents?
  | .worker run => (system.roster.worker? run).bind fun worker => worker.phase.contents?

theorem contentsOf_task (thread : Thread) :
    system.contentsOf thread.task = (system.placeOf thread).bind Call.contents? := by
  cases thread <;> rfl

/-- What a task has read is known from its place. -/
private theorem contentsOf_congr
    (hplace : ∀ thread : Thread, task = thread.task →
      next.placeOf thread = system.placeOf thread)
    (hworker : ∀ run, task = .worker run →
      (next.roster.worker? run).bind (fun worker => worker.phase.contents?) =
        (system.roster.worker? run).bind fun worker => worker.phase.contents?) :
    next.contentsOf task = system.contentsOf task := by
  cases task with
  | caller name => rw [contentsOf, contentsOf, hplace (.caller name) rfl]
  | control => rw [contentsOf, contentsOf, hplace .control rfl]
  | worker run => exact hworker run rfl

private theorem contentsOf_of_turned {thread : Thread}
    (hafter : ∀ call, next.placeOf thread = some call →
      ∃ operation : Operation, call = operation.begin) :
    next.contentsOf thread.task = none := by
  rw [contentsOf_task, Option.bind_eq_none_iff]
  intro call hcall
  obtain ⟨operation, rfl⟩ := hafter call hcall
  exact Call.contents?_begin operation

/-- A task that has contents to report after a step of its own has read them in this step. -/
theorem contents_of_own_step (h : system.step action = some (next, events))
    (hown : action.task? = some task) (hnext : next.contentsOf task = some counts) :
    counts = system.core.tags.accumulated.counts := by
  cases actionStep h with
  | carried thread choice call advance haction hplace hstep hengine hafter =>
      subst haction
      -- an operation has contents in hand only right after it has read them
      obtain rfl : thread.task = task := Option.some.inj hown
      rw [contentsOf_task, hafter, Option.bind_some] at hnext
      exact Call.step_contents hstep hnext
  | worked run choice worker advance haction hworker hstep hcore hroster =>
      subst haction
      obtain rfl : Task.worker run = task := Option.some.inj hown
      rw [contentsOf, hroster, Roster.worker?_setWorker run run _ (by rw [hworker]; rfl),
        if_pos rfl, Option.bind_some] at hnext
      exact (Worker.step_flow hstep).contents_eq hnext
  | turned thread hthread hfail hbefore hafter =>
      obtain rfl : task = thread.task := Action.task_of_thread? hthread hown
      rw [contentsOf_of_turned fun call hcall => (hafter call hcall).imp fun _ => And.left]
        at hnext
      cases hnext
  | aside hthread htask =>
      rw [htask] at hown
      cases hown

/-- What a task has read stays as it is while others take their steps. -/
theorem contentsOf_of_other_step (h : system.step action = some (next, events))
    (hother : action.task? ≠ some task) (hnext : next.contentsOf task = some counts) :
    system.contentsOf task = some counts := by
  cases actionStep h with
  | carried thread choice call advance haction hplace hstep hengine hafter hothers =>
      subst haction
      rw [← hnext]
      refine (contentsOf_congr ?_ ?_).symm
      · rintro other rfl
        exact hothers other fun heq => hother (heq ▸ rfl)
      · rintro run rfl
        have hroster : next.roster = advance.engine.roster := by rw [roster, hengine]
        rw [hroster]
        exact (Call.step_runs hstep).1.bind_phase rfl run
  | worked run choice worker advance haction hworker hstep hcore hroster hplaces =>
      subst haction
      rw [← hnext]
      refine (contentsOf_congr (fun thread _ => by rw [hplaces]) ?_).symm
      rintro other rfl
      have hne : other ≠ run := fun heq => hother (heq ▸ rfl)
      rw [hroster, Roster.worker?_setWorker run other _ (by rw [hworker]; rfl), if_neg hne]
  | turned thread hthread hfail hbefore hafter hothers hcore hroster =>
      by_cases hown : task = thread.task
      · subst hown
        rw [contentsOf_of_turned fun call hcall => (hafter call hcall).imp fun _ => And.left]
          at hnext
        cases hnext
      · rw [← hnext]
        refine (contentsOf_congr ?_ (fun run _ => by rw [hroster])).symm
        rintro other rfl
        exact hothers other fun heq => hown (heq ▸ rfl)
  | aside hthread htask hplaces hroster =>
      rw [← hnext]
      exact (contentsOf_congr (fun thread _ => by rw [hplaces]) fun run _ => by rw [hroster]).symm

/-- A report is made by a thread that has contents to report, or by a worker in the place for
it. -/
theorem reported_case (h : system.step action = some (next, events)) {report : Report}
    (hmem : report ∈ reportsOf events) :
    (∃ thread counts, action.task? = some thread.task ∧
      (system.placeOf thread).bind Call.contents? = some counts ∧ report = .contents counts) ∨
    ∃ run worker, action.task? = some (.worker run) ∧
      system.roster.worker? run = some worker ∧ worker.phase = .reporting report := by
  have hthread (thread : Thread) {choice : Choice} {call : Call} {advance : CallAdvance Call}
      (hplace : system.placeOf thread = some call)
      (hstep : call.step system.engine thread choice = some advance)
      (hown : report ∈ reportsOf advance.events) :
      ∃ counts, (system.placeOf thread).bind Call.contents? = some counts ∧
        report = .contents counts := by
    rw [hplace, Option.bind_some]
    exact Call.contents_of_reports hstep hown
  have hnotes (hnone : reportsOf events = []) : False := by
    rw [hnone] at hmem
    cases hmem
  cases action with
  | step task choice =>
      cases task with
      | caller name =>
          obtain ⟨call, advance, hcall, hstep, rfl, rfl⟩ := stepCaller_case h
          obtain ⟨counts, hcounts, heq⟩ := hthread (.caller name) hcall hstep hmem
          exact .inl ⟨.caller name, counts, rfl, hcounts, heq⟩
      | control =>
          cases stepControl_case h with
          -- what the control thread says about its events is only noted
          | settled event answer hhandling =>
              refine (hnotes ?_).elim
              cases answer <;> rfl
          | moved event call advance hhandling hstep =>
              obtain ⟨counts, hcounts, heq⟩ :=
                hthread .control (by rw [placeOf, hhandling]; rfl) hstep hmem
              exact .inl ⟨.control, counts, rfl, hcounts, heq⟩
          | taken event control hhandling => exact (hnotes rfl).elim
          | left control hhandling => exact (hnotes rfl).elim
      | worker run =>
          obtain ⟨worker, advance, hworker, hstep, rfl, rfl⟩ := stepWorker_case h
          exact .inr ⟨run, worker, rfl, hworker, Worker.phase_of_reports hstep hmem⟩
  | begin name operation =>
      simp only [step] at h
      split at h <;> cases h
      refine (hnotes ?_).elim
      cases operation with
      | execute code payload =>
          rw [Operation.events]
          cases Request.ofRaw code payload <;> rfl
      | _ => rfl
  | receive byte =>
      simp only [step] at h
      split at h <;> cases h
      exact (hnotes (reportsOf_of_notes (system.core.notes_receiveEvents byte))).elim
  | enqueue event | tune tunable =>
      cases h
      exact (hnotes rfl).elim
  | readFails cause | readerLeaves =>
      simp only [step] at h
      split at h <;> cases h
      exact (hnotes rfl).elim

/-- Contents are reported by a task that has read them. -/
theorem contentsOf_of_reported (h : system.step action = some (next, events))
    (hmem : .contents counts ∈ reportsOf events) :
    ∃ task, action.task? = some task ∧ system.contentsOf task = some counts := by
  rcases reported_case h hmem with
    ⟨thread, own, htask, hown, heq⟩ | ⟨run, worker, htask, hworker, hphase⟩
  · cases heq
    exact ⟨thread.task, htask, (contentsOf_task thread).trans hown⟩
  · refine ⟨.worker run, htask, ?_⟩
    rw [contentsOf, hworker, Option.bind_some, hphase]
    rfl

/-! ## What a run does to the views -/

/-- What an action does to the views. -/
def tagOperationsOf (system : System) : Action → List TagOperation
  | .step (.worker run) _ => ((system.roster.worker? run).bind Worker.operation?).toList
  | .receive byte => system.core.recordsOf byte
  | _ => []

/-- What a run does to the views, up to the first action that is not possible. -/
def tagHistory (system : System) : List Action → List TagOperation
  | [] => []
  | action :: actions =>
    match system.step action with
    | some (next, _) => system.tagOperationsOf action ++ next.tagHistory actions
    | none => []

theorem tags_step (hdrained : system.core.session.Drained)
    (h : system.step action = some (next, events)) :
    next.core.tags = system.core.tags.afterAll (system.tagOperationsOf action) := by
  by_cases hworker : ∃ run choice, action = .step (.worker run) choice
  · obtain ⟨run, choice, rfl⟩ := hworker
    obtain ⟨worker, advance, hworker, hstep, rfl, rfl⟩ := stepWorker_case h
    rw [tagOperationsOf, hworker, Option.bind_some]
    exact Worker.step_tags hstep
  by_cases hbyte : ∃ byte, action = .receive byte
  · obtain ⟨byte, rfl⟩ := hbyte
    rw [step_receive h]
    exact Core.tags_receive hdrained byte
  -- everybody else leaves the views alone
  have hleaves := (step_of_bystander (fun run choice heq => hworker ⟨run, choice, heq⟩)
    (fun byte heq => hbyte ⟨byte, heq⟩) h).1
  have hnone : system.tagOperationsOf action = [] := by
    cases action with
    | step task choice =>
        cases task with
        | worker run => exact absurd ⟨run, choice, rfl⟩ hworker
        | _ => rfl
    | receive byte => exact absurd ⟨byte, rfl⟩ hbyte
    | _ => rfl
  rw [hnone, hleaves.tags_eq]
  rfl

theorem tags_run (hsound : system.Sound) {actions : List Action} {last : System}
    {log : List Event} (hrun : system.run actions = some (last, log)) :
    last.core.tags = system.core.tags.afterAll (system.tagHistory actions) := by
  induction actions generalizing system log with
  | nil =>
      cases hrun
      rfl
  | cons action actions ih =>
      obtain ⟨next, events, later, hstep, hrest, rfl⟩ := run_cons_case hrun
      rw [tagHistory, hstep, TagViews.afterAll_append, ← tags_step hsound.drained hstep]
      exact ih (hsound.step hstep) hrest

/-- Contents that a task has to report were read in its last step. -/
theorem contents_read {start last : System} (hstart : ∀ task, start.contentsOf task = none)
    {actions : List Action} {log : List Event} (hrun : start.run actions = some (last, log))
    (h : last.contentsOf task = some counts) :
    ∃ earlier reading between seen shown, actions = earlier ++ reading :: between ∧
      reading.task? = some task ∧ (∀ other ∈ between, other.task? ≠ some task) ∧
      start.run earlier = some (seen, shown) ∧ counts = seen.core.tags.accumulated.counts := by
  induction actions using List.reverseRec generalizing last log with
  | nil =>
      cases hrun
      rw [hstart] at h
      cases h
  | append_singleton actions action ih =>
      obtain ⟨middle, shown, events, hactions, hstep, -⟩ := run_concat_case hrun
      by_cases hown : action.task? = some task
      · -- the last step was its own: it has just read them
        exact ⟨actions, action, [], middle, shown, rfl, hown, by simp, hactions,
          contents_of_own_step hstep hown h⟩
      · obtain ⟨earlier, reading, between, seen, shown, rfl, hreading, hbetween, hseen, hcounts⟩ :=
          ih hactions (contentsOf_of_other_step hstep hown h)
        refine ⟨earlier, reading, between ++ [action], seen, shown, by simp, hreading, ?_, hseen,
          hcounts⟩
        intro other hmem
        rcases List.mem_append.mp hmem with hmem | hmem
        · exact hbetween other hmem
        · rw [List.mem_singleton.mp hmem]
          exact hown

/-- **What a report of the contents counts.**  The tags of a run are counted as often as they
were read since the run began, and as often as that was before it since a diagnostic run began
last.  So the numbers are those of the run alone exactly when nothing that was read in it had
been read before it since then; in a diagnostic run they always are.

In every run of an engine the views are those of its history: the operations of the workers,
and a record for every tag that the bytes bring.  Contents are reported by a task that has read
these numbers in its last step before. -/
theorem contents_of_run {history : List TagOperation}
    (hfew : (recorded history).length < UInt32.size) :
    let counts := (TagViews.initial.afterAll history).accumulated.counts
    let reads := recordedSince TagOperation.startsRun history
    ((∀ text number, (text, number) ∈ counts ↔ ∃ epc ∈ reads, hexText epc = text ∧
        number.toNat = reads.count epc + (carriedOver history).count epc) ∧
      ((∀ text number, (text, number) ∈ counts ↔ ∃ epc ∈ reads, hexText epc = text ∧
          number.toNat = reads.count epc) ↔
        ∀ epc ∈ reads, epc ∉ carriedOver history) ∧
      ∀ earlier later, history = earlier ++ .beginRun true :: later →
        (∀ operation ∈ later, operation.startsRun = false) → carriedOver history = []) ∧
    ∀ config connected before system log,
      (initial config connected).run before = some (system, log) →
      system.core.tags =
        TagViews.initial.afterAll ((initial config connected).tagHistory before) ∧
      ∀ action next events, system.step action = some (next, events) →
        ∀ counts, .contents counts ∈ reportsOf events →
          ∃ task earlier reading between, before = earlier ++ reading :: between ∧
            reading.task? = some task ∧ action.task? = some task ∧
            (∀ other ∈ between, other.task? ≠ some task) ∧
            counts = (TagViews.initial.afterAll
              ((initial config connected).tagHistory earlier)).accumulated.counts := by
  intro counts reads
  constructor
  · refine ⟨fun _ _ => TagViews.mem_counts_accumulated hfew,
      TagViews.counts_accumulated_iff hfew, ?_⟩
    rintro earlier later rfl hlater
    exact carriedOver_of_diagnostic hlater
  · intro config connected before system log hrun
    have hsound : (initial config connected).Sound := sound_initial config connected
    refine ⟨tags_run hsound hrun, ?_⟩
    intro action next events hstep counts hmem
    have hstart (task : Task) : (initial config connected).contentsOf task = none := by
      cases task <;> rfl
    obtain ⟨task, htask, hcontents⟩ := contentsOf_of_reported hstep hmem
    obtain ⟨earlier, reading, between, seen, shown, hsplit, hreading, hbetween, hseen, rfl⟩ :=
      contents_read hstart hrun hcontents
    refine ⟨task, earlier, reading, between, hsplit, hreading, htask, hbetween, ?_⟩
    rw [tags_run hsound hseen]
    rfl

/-- Two plain runs read the same tag. -/
private def readInBoth : List TagOperation :=
  [.beginRun false, .record { epc := [0x0A] }, .beginRun false, .record { epc := [0x0A] }]

/-- The second run reports the tag as seen twice. -/
theorem contents_of_readInBoth :
    (recorded readInBoth).length < UInt32.size ∧
      (recordedSince TagOperation.startsRun readInBoth).count [0x0A] = 1 ∧
      (TagViews.initial.afterAll readInBoth).accumulated.counts = [("0A", 2)] := by
  decide +kernel

/-- The answer to a direct read that finds one tag. -/
private def foundTag : Frame :=
  .make broadcastAddress Command.read.code
    (encodeReadRecord 1 0x3000 0x1122 [0x0A] [] 0x05 1)

/-- The tag is read on a connected engine, and a caller is about to report the contents. -/
private def aboutToReport : List Action :=
  [.begin 0 .connect, .step (.caller 0) .proceed, .step (.caller 0) .proceed] ++
    foundTag.bytes.map .receive ++
    [.begin 1 .reportContents, .step (.caller 1) .proceed, .step (.caller 1) .proceed]

theorem contents_of_aboutToReport :
    let start := initial .standard true
    let history := start.tagHistory aboutToReport
    (recorded history).length < UInt32.size ∧
      ("0A", 1) ∈ (TagViews.initial.afterAll history).accumulated.counts ∧
      ((start.after aboutToReport).step (.step (.caller 1) .proceed)).map Prod.snd =
        some [.reported (.contents [("0A", 1)])] ∧
      ∃ earlier reading between, aboutToReport = earlier ++ reading :: between ∧
        reading.task? = some (.caller 1) ∧
        [("0A", 1)] =
          (TagViews.initial.afterAll (start.tagHistory earlier)).accumulated.counts := by
  intro start history
  have hfew : (recorded history).length < UInt32.size := by decide +kernel
  obtain ⟨⟨hcounts, -⟩, hruns⟩ := contents_of_run hfew
  obtain ⟨log, hrun⟩ := run_after start aboutToReport (by decide +kernel)
  have hshown : ((start.after aboutToReport).step (.step (.caller 1) .proceed)).map Prod.snd =
      some [.reported (.contents [("0A", 1)])] := by decide +kernel
  refine ⟨hfew, (hcounts "0A" 1).mpr ?_, hshown, ?_⟩
  · exact ⟨[0x0A], by decide +kernel, by decide +kernel, by decide +kernel⟩
  · obtain ⟨⟨next, events⟩, hstep, hevents⟩ := Option.map_eq_some_iff.mp hshown
    obtain rfl : events = [.reported (.contents [("0A", 1)])] := hevents
    obtain ⟨task, earlier, reading, between, hsplit, hreading, htask, -, hcounts⟩ :=
      (hruns _ _ _ _ _ hrun).2 _ _ _ hstep [("0A", 1)] (List.mem_singleton_self _)
    cases htask
    exact ⟨earlier, reading, between, hsplit, hreading, hcounts⟩

end System

end TagInventory
