import TagInventory.Proofs.Engine.Inventory
import TagInventory.Proofs.Engine.SingleWorker

/-!
# From the tags in the field to the reports

The main statement is about whole engines: a worker was just spawned, the reader has some
polls ahead, and nobody else is at work but the thread that started the run, which still
has to put it into the slot.  Then every run of the engine comes to the reports that the
polls call for.

## Strategy

A `Site` is an engine with its reader.  What matters of it for one run is a `Scene`
(`Site.Shows`): every step of the site is a step of the scene, or one of the few steps that
the starting thread has left, which change nothing in the scene (`Site.Shows.step`).  What
is inevitable in the scene is therefore inevitable in the site (`Site.Shows.inevitable`),
and the reports follow from `Scene.continuous` and `Scene.bounded`.
-/

namespace TagInventory

/-! ## The thread that started the run -/

/-- The steps that are left once the worker was spawned. -/
def Grip.stepsLeft : Grip → Nat
  | .starting (.storing _) => 2
  | .starting .unlocking => 1
  | _ => 0

/-- The thread puts the run into the slot, and gives the lock back. -/
theorem Call.step_stepsLeft {engine : Engine} {thread : Thread} {call : Call} {choice : Choice}
    {advance : CallAdvance Call} (hleft : 0 < call.grip.stepsLeft)
    (h : call.step engine thread choice = some advance) :
    advance.engine.core = engine.core ∧
      advance.engine.roster.workers = engine.roster.workers ∧ advance.events = [] ∧
      advance.next.grip.stepsLeft < call.grip.stepsLeft := by
  cases call with
  | starting plan step =>
      cases step with
      | storing run | unlocking =>
          cases choice <;> cases h
          exact ⟨rfl, rfl, rfl, by simp [grip, Grip.stepsLeft]⟩
      | _ => exact absurd hleft (Nat.lt_irrefl 0)
  | _ => exact absurd hleft (Nat.lt_irrefl 0)

namespace System

variable {system next : System} {events : List Event}

theorem step_stepsLeft {thread : Thread} {choice : Choice}
    (hleft : 0 < (system.gripOf thread).stepsLeft)
    (h : system.step (.step thread.task choice) = some (next, events)) :
    next.core = system.core ∧ next.roster.workers = system.roster.workers ∧ events = [] ∧
      (next.gripOf thread).stepsLeft < (system.gripOf thread).stepsLeft := by
  cases thread with
  | caller name =>
      obtain ⟨call, advance, hcall, hstep, rfl, rfl⟩ := stepCaller_case h
      rw [gripOf_caller hcall] at hleft ⊢
      rw [gripOf_setCall_self]
      exact Call.step_stepsLeft hleft hstep
  | control =>
      cases stepControl_case h with
      | settled event answer hhandling =>
          simp [gripOf, hhandling, Call.grip, Grip.stepsLeft] at hleft
      | moved event call advance hhandling hstep =>
          have hbefore : system.gripOf .control = call.grip := by simp [gripOf, hhandling]
          rw [hbefore] at hleft ⊢
          exact Call.step_stepsLeft hleft hstep
      | taken event control hhandling | left control hhandling =>
          simp [gripOf, hhandling, Grip.stepsLeft] at hleft

end System

/-! ## Sites -/

/-- An engine and the reader at the other end of its link. -/
structure Site where
  system : System
  reader : PollingReader

namespace Site

/-- The place of the worker of a run. -/
def phase? (site : Site) (run : RunId) : Option WorkerPhase :=
  (site.system.roster.worker? run).map Worker.phase

/-- What can happen next when only one worker is at work, the thread that started it
finishes starting it, and the reader answers in time; and the reports that are made. -/
inductive Step (run : RunId) (starter : Thread) : Site → List Report → Site → Prop
  | work {system next : System} {reader : PollingReader} {worker : Worker} {events : List Event}
      (choice : Choice) (hworker : system.roster.worker? run = some worker)
      (htimely : worker.phase.isTimely choice = true)
      (h : system.step (.step (.worker run) choice) = some (next, events)) :
      Step run starter ⟨system, reader⟩ (reportsOf events) ⟨next, reader.receiveAll events⟩
  | byte {system next : System} {reader : PollingReader} {events : List Event} (byte : UInt8)
      (line : List UInt8) (hline : reader.line = byte :: line)
      (h : system.step (.receive byte) = some (next, events)) :
      Step run starter ⟨system, reader⟩ (reportsOf events)
        ⟨next, { reader with line := line }⟩
  | start {system next : System} {reader : PollingReader} {events : List Event} (choice : Choice)
      (hleft : 0 < (system.gripOf starter).stepsLeft)
      (h : system.step (.step starter.task choice) = some (next, events)) :
      Step run starter ⟨system, reader⟩ (reportsOf events) ⟨next, reader.receiveAll events⟩

/-- In whatever order the threads and the bytes take turns, the worker of a run comes to a
place with some polls still ahead, and its reports are as they should be then. -/
def LeadsTo (site : Site) (run : RunId) (starter : Thread) (phase : WorkerPhase)
    (rest : List Poll) (P : List Report → Prop) : Prop :=
  Inevitable (Step run starter)
    (fun reports site =>
      site.phase? run = some phase ∧ site.reader.upcoming = rest ∧ P reports) [] site

/-- What matters of a site for one run. -/
structure Shows (site : Site) (run : RunId) (scene : Scene) : Prop where
  core_eq : site.system.core = scene.core
  worker_eq : site.system.roster.worker? run = some scene.worker
  reader_eq : site.reader = scene.reader

namespace Shows

variable {run : RunId} {starter : Thread} {site site' : Site} {scene scene' : Scene}
  {made : List Report}

/-- What can happen in the scene can happen in the site. -/
theorem can (hshows : site.Shows run scene) (starter : Thread)
    (h : Scene.Step scene made scene') : ∃ made site', Step run starter site made site' := by
  obtain ⟨system, reader⟩ := site
  obtain ⟨hcore, hworker, hreader⟩ := hshows
  dsimp only at hcore hworker hreader
  cases h with
  | work choice advance htimely hstep =>
      have hpossible : (system.step (.step (.worker run) choice)).isSome = true := by
        simp [System.step, System.stepWorker, hworker, hcore, hstep]
      obtain ⟨⟨next, events⟩, hnext⟩ := Option.isSome_iff_exists.mp hpossible
      exact ⟨_, _, .work choice hworker htimely hnext⟩
  | byte byte line hrunning hline =>
      have hpossible : (system.step (.receive byte)).isSome = true := by
        simp [System.step, hcore, hrunning]
      obtain ⟨⟨next, events⟩, hnext⟩ := Option.isSome_iff_exists.mp hpossible
      exact ⟨_, _, .byte byte line (by rw [hreader, hline]) hnext⟩

/-- A step of the site is a step of the scene, or one of those that are left to the thread
that started the run. -/
theorem step (hshows : site.Shows run scene) (h : Step run starter site made site') :
    (∃ scene', Scene.Step scene made scene' ∧ site'.Shows run scene') ∨
      (made = [] ∧ site'.Shows run scene ∧
        (site'.system.gripOf starter).stepsLeft < (site.system.gripOf starter).stepsLeft) := by
  obtain ⟨core, worker, reader⟩ := scene
  obtain ⟨hcore, hworker, hreader⟩ := hshows
  dsimp only at hcore hworker hreader
  subst hcore hreader
  cases h with
  | work choice hfound htimely hstep =>
      rw [hworker] at hfound
      cases hfound
      obtain ⟨worker', advance, hworker', hadvance, rfl, rfl⟩ := System.stepWorker_case hstep
      rw [hworker] at hworker'
      cases hworker'
      refine .inl ⟨_, .work choice advance htimely hadvance, rfl, ?_, rfl⟩
      have hset := Roster.worker?_setWorker run run advance.next (by rw [hworker]; rfl)
      exact hset.trans (if_pos rfl)
  | byte byte line hline hstep =>
      simp only [System.step] at hstep
      split at hstep <;> cases hstep
      rename_i hrunning
      rw [reportsOf_of_notes (Core.notes_receiveEvents _ byte)]
      exact .inl ⟨_, .byte byte line hrunning hline, rfl, hworker, rfl⟩
  | @start _ next _ _ choice hleft hstep =>
      obtain ⟨hcore, hworkers, rfl, hlt⟩ := System.step_stepsLeft hleft hstep
      refine .inr ⟨rfl, ⟨hcore, ?_, rfl⟩, hlt⟩
      show next.roster.workers[run]? = some worker
      rw [hworkers]
      exact hworker

/-- What cannot be avoided in the scene cannot be avoided in the site. -/
theorem inevitable {Goal : List Report → Scene → Prop} {reports : List Report}
    (hshows : site.Shows run scene) (h : Inevitable Scene.Step Goal reports scene) :
    Inevitable (Step run starter)
      (fun reports site => ∃ scene, site.Shows run scene ∧ Goal reports scene) reports site := by
  induction h generalizing site with
  | now hgoal => exact .now ⟨_, hshows, hgoal⟩
  | later hcan hall ih =>
      -- the thread that started the run has fewer and fewer steps left
      generalize hrank : (site.system.gripOf starter).stepsLeft = rank
      induction rank using Nat.strongRecOn generalizing site with
      | ind rank hless =>
          obtain ⟨made, next, hstep⟩ := hcan
          refine .later (hshows.can starter hstep) ?_
          intro made site' hmove
          rcases hshows.step hmove with ⟨scene', hscene, hshows'⟩ | ⟨hmade, hshows', hlt⟩
          · exact ih made scene' hscene hshows'
          · rw [hmade, List.append_nil]
            rw [hrank] at hlt
            exact hless _ hlt hshows' rfl

end Shows

end Site

/-! ## The reports of a run -/

namespace System

/-- A worker was just spawned in an engine whose link works, and no part of a frame was
received yet. -/
structure Spawned (system : System) (run : RunId) (plan : RunPlan) : Prop where
  reachable : ∃ config connected, Reachable config connected system
  worker_eq : system.roster.worker? run = some (.spawn plan)
  initialized : system.core.initialized = true
  connected : system.core.connected = true
  readerRunning : system.core.readerRunning = true
  noise : frameHeader ∉ system.core.receiver.buffer

namespace Spawned

variable {system : System} {run : RunId} {starter : Thread} {polls rest : List Poll}

theorem ready {plan : RunPlan} (h : system.Spawned run plan) : system.core.Ready := by
  obtain ⟨config, connected, hreachable⟩ := h.reachable
  have hsound := hreachable.sound
  exact ⟨h.initialized, h.connected, h.readerRunning, hsound.drained, ⟨hsound.waiting, h.noise⟩,
    hsound.waits⟩

theorem shows {plan : RunPlan} (h : system.Spawned run plan) (reader : PollingReader) :
    (Site.mk system reader).Shows run ⟨system.core, .spawn plan, reader⟩ :=
  ⟨rfl, h.worker_eq, rfl⟩

/-- The site comes to what the scene comes to. -/
theorem leadsTo {plan : RunPlan} (h : system.Spawned run plan) {reader : PollingReader}
    {phase : WorkerPhase} {P : List Report → Prop}
    (hscene : Inevitable Scene.Step
      (fun reports scene =>
        scene.worker.phase = phase ∧ scene.reader.upcoming = rest ∧ P reports)
      [] ⟨system.core, .spawn plan, reader⟩) :
    (Site.mk system reader).LeadsTo run starter phase rest P := by
  refine ((h.shows reader).inevitable hscene).mono ?_
  rintro reports site ⟨scene, hshows, hphase, hrest, hreports⟩
  refine ⟨?_, ?_, hreports⟩
  · rw [Site.phase?, hshows.worker_eq, Option.map_some, hphase]
  · rw [hshows.reader_eq, hrest]

theorem changes (h : system.Spawned run (.continuous true)) (hone : system.core.pollCount = 1)
    (hpolls : ∀ poll ∈ polls, poll.WellFormed) :
    (Site.mk system (.ofPolls (polls ++ rest))).LeadsTo run starter .choosing rest fun reports =>
      reports = changeReports system.core.tags.snapshot.keys (polls.map Poll.texts) := by
  refine h.leadsTo ?_
  refine Scene.proceed_noted rfl rfl rfl rfl ?_
  refine Scene.continuous (h.ready.setTags _) hone hpolls (fun _ => Iff.rfl) ?_
  intro core attempt interval current
  exact ⟨rfl, rfl, rfl⟩

/-- A bounded run makes one report, of what its polls add to the views. -/
theorem finalReport {cycles : UInt64} {diagnostic : Bool}
    (h : system.Spawned run (.bounded cycles diagnostic)) (hcycles : cycles.toNat = polls.length)
    (hpolls : ∀ poll ∈ polls, poll.WellFormed) {P : List Report → Prop}
    (hreport : ∀ tags, (system.core.tags.beginRun diagnostic).Counted (polls.map Poll.texts) tags →
      P [Worker.finalReport (.bounded cycles diagnostic) tags]) :
    (Site.mk system (.ofPolls (polls ++ rest))).LeadsTo run starter .exited rest P := by
  refine h.leadsTo ?_
  refine Scene.proceed_noted rfl rfl rfl ?_ ?_
  · simp [Event.isNote]
  refine Scene.bounded (h.ready.setTags _) hpolls (by rw [hcycles]; exact Nat.zero_add _) ?_
  intro core attempt interval current hcounted
  exact ⟨rfl, rfl, hreport core.tags hcounted⟩

end Spawned

/-- **What a run reports.**  A reader has some polls ahead and answers in time, nobody else
is at work, and nothing fails.  Then, in whatever order the threads and the bytes take
turns,

* a continuous run with one poll to a cycle comes to the end of its first polls, and has
  reported what came and what went from each of them to the next;
* a plain run of as many cycles as polls ends with one report of the EPCs that were found;
* a diagnostic run of as many cycles ends with one report of how many polls found each EPC,
  as a number of 32 bits.

Taking the first polls for `polls` and the others for `rest`, the first part says what has
been reported after every single poll. -/
theorem reports_of_polls {polls : List Poll} (hpolls : ∀ poll ∈ polls, poll.WellFormed)
    (rest : List Poll) (run : RunId) (starter : Thread) :
    (∀ system : System, system.Spawned run (.continuous true) → system.core.pollCount = 1 →
      (Site.mk system (.ofPolls (polls ++ rest))).LeadsTo run starter .choosing rest fun reports =>
        reports = changeReports system.core.tags.snapshot.keys (polls.map Poll.texts)) ∧
    (∀ (system : System) (cycles : UInt64), system.Spawned run (.bounded cycles false) →
      cycles.toNat = polls.length →
      (Site.mk system (.ofPolls (polls ++ rest))).LeadsTo run starter .exited rest fun reports =>
        ∃ counts : Counts, reports = [.contents counts] ∧
          counts.map Prod.fst = sortedSet (polls.flatMap Poll.texts)) ∧
    (∀ (system : System) (cycles : UInt64), system.Spawned run (.bounded cycles true) →
      cycles.toNat = polls.length →
      (Site.mk system (.ofPolls (polls ++ rest))).LeadsTo run starter .exited rest fun reports =>
        reports = [.occurrences ((sortedSet (polls.flatMap Poll.texts)).map fun text =>
          (text, UInt32.ofNat (polls.countP fun poll => text ∈ poll.texts)))]) := by
  refine ⟨?_, ?_, ?_⟩
  · intro system h hone
    exact h.changes hone hpolls
  · intro system cycles h hcycles
    refine h.finalReport hcycles hpolls ?_
    intro tags hcounted
    exact ⟨_, rfl, hcounted.map_fst_counts rfl⟩
  · intro system cycles h hcycles
    refine h.finalReport hcycles hpolls ?_
    intro tags hcounted
    show [Report.occurrences tags.occurrences.counts] = _
    rw [hcounted.counts_occurrences rfl]
    simp only [List.countP_map]
    rfl

/-- A caller connects without waiting for the firmware version, and another one starts a
run, up to the moment at which the worker is there. -/
private def spawning (operation : Operation) : List Action :=
  .begin 0 .connect :: List.replicate 2 (.step (.caller 0) .proceed) ++
    .begin 1 operation :: List.replicate 5 (.step (.caller 1) .proceed)

/-- An engine that polls once in a cycle, at that moment. -/
private def justSpawned (operation : Operation) : System :=
  (initial { EngineConfig.standard with pollCount := 1 } true).after (spawning operation)

private theorem spawned_justSpawned {operation : Operation} {plan : RunPlan}
    (hpossible : ((initial { EngineConfig.standard with pollCount := 1 } true).run
      (spawning operation)).isSome = true)
    (hworker : (justSpawned operation).roster.worker? 0 = some (.spawn plan))
    (hlink : (justSpawned operation).core.initialized = true ∧
      (justSpawned operation).core.connected = true ∧
      (justSpawned operation).core.readerRunning = true)
    (hnoise : frameHeader ∉ (justSpawned operation).core.receiver.buffer) :
    (justSpawned operation).Spawned 0 plan := by
  obtain ⟨_, hrun⟩ := run_after _ _ hpossible
  exact ⟨⟨_, _, _, _, hrun⟩, hworker, hlink.1, hlink.2.1, hlink.2.2, hnoise⟩

/-- Two tags are found, one of them leaves, and then the other one. -/
private def twoTagsLeave : List Poll :=
  let tag (last : UInt8) : Sighting := ⟨[0xE2, last], 0x3000, 0x1234, 0x50, 0x06, 1⟩
  [⟨0xFF, ⟨0, 2, 10, 2⟩, [tag 0x02, tag 0x01]⟩, ⟨0xFF, ⟨0, 1, 10, 3⟩, [tag 0x02]⟩,
    ⟨0xFF, ⟨0, 0, 10, 3⟩, []⟩]

theorem reports_of_twoTagsLeave :
    (Site.mk (justSpawned (.startContinuous true)) (.ofPolls twoTagsLeave)).LeadsTo 0 (.caller 1)
      .choosing [] (fun reports =>
        reports = [.change [] ["E201", "E202"], .change ["E201"] [], .change ["E202"] []]) ∧
    (Site.mk (justSpawned (.runBounded 3 false)) (.ofPolls twoTagsLeave)).LeadsTo 0 (.caller 1)
      .exited [] (fun reports =>
        ∃ counts : Counts, reports = [.contents counts] ∧
          counts.map Prod.fst = ["E201", "E202"]) ∧
    (Site.mk (justSpawned (.runBounded 3 true)) (.ofPolls twoTagsLeave)).LeadsTo 0 (.caller 1)
      .exited [] (fun reports =>
        reports = [.occurrences [("E201", 1), ("E202", 2)]]) := by
  have hpolls : ∀ poll ∈ twoTagsLeave, poll.WellFormed := by decide
  have hcontinuous : (justSpawned (.startContinuous true)).Spawned 0 (.continuous true) :=
    spawned_justSpawned (by decide +kernel) (by decide +kernel) (by decide +kernel)
      (by decide +kernel)
  have hplain : (justSpawned (.runBounded 3 false)).Spawned 0 (.bounded 3 false) :=
    spawned_justSpawned (by decide +kernel) (by decide +kernel) (by decide +kernel)
      (by decide +kernel)
  have hdiagnostic : (justSpawned (.runBounded 3 true)).Spawned 0 (.bounded 3 true) :=
    spawned_justSpawned (by decide +kernel) (by decide +kernel) (by decide +kernel)
      (by decide +kernel)
  obtain ⟨hchanges, hcontents, hoccurrences⟩ := reports_of_polls hpolls [] 0 (.caller 1)
  rw [List.append_nil] at hchanges hcontents hoccurrences
  have hall : sortedSet (twoTagsLeave.flatMap Poll.texts) = ["E201", "E202"] := by decide
  refine ⟨?_, ?_, ?_⟩
  · have hreports : changeReports (justSpawned (.startContinuous true)).core.tags.snapshot.keys
        (twoTagsLeave.map Poll.texts) =
          [.change [] ["E201", "E202"], .change ["E201"] [], .change ["E202"] []] := by
      decide +kernel
    rw [← hreports]
    exact hchanges _ hcontinuous (by decide +kernel)
  · rw [← hall]
    exact hcontents _ 3 hplain rfl
  · have hcounts : (sortedSet (twoTagsLeave.flatMap Poll.texts)).map (fun text =>
        (text, UInt32.ofNat (twoTagsLeave.countP fun poll => text ∈ poll.texts))) =
          [("E201", 1), ("E202", 2)] := by
      decide +kernel
    rw [← hcounts]
    exact hoccurrences _ 3 hdiagnostic rfl

end System

end TagInventory
