import TagInventory.Proofs.Engine.Contents
import TagInventory.Proofs.Tag.Order

/-!
# The order of what is reported

Reports carry texts.  Each list of a report is read off a view, or selected from its keys, so
that it is in the order of the EPCs when the views are keyed (`Report.inOrder_finalReport`,
`Report.inOrder_change`).  Between reading and reporting a list is in the hand of one task:
`System.Composed` says that whatever is about to be reported is in order, and every step keeps
it (`System.Composed.step`).
-/

namespace TagInventory

/-! ## Reports of keyed views -/

namespace Report

/-- The lists of tags that a report carries. -/
def tagLists : Report → List (List String)
  | change removed added => [removed, added]
  | contents counts | occurrences counts => [counts.map Prod.fst]

/-- Every list of a report is in the order of the EPCs. -/
def InOrder (report : Report) : Prop :=
  ∀ texts ∈ report.tagLists, InEpcOrder texts

variable {tags : TagViews}

theorem inOrder_counts {view : View} (h : view.Keyed) :
    (contents view.counts).InOrder ∧ (occurrences view.counts).InOrder := by
  have hcounts : ∀ texts ∈ [view.counts.map Prod.fst], InEpcOrder texts := by
    intro texts htexts
    rw [List.mem_singleton.mp htexts, View.map_fst_counts]
    exact h.inEpcOrder_keys
  exact ⟨hcounts, hcounts⟩

theorem inOrder_finalReport (h : tags.Keyed) (plan : RunPlan) :
    (Worker.finalReport plan tags).InOrder := by
  obtain ⟨-, -, -, haccumulated, hoccurrences⟩ := TagViews.keyed_iff.mp h
  unfold Worker.finalReport
  split
  · exact (inOrder_counts hoccurrences).2
  · exact (inOrder_counts haccumulated).1

/-- What left is selected from the snapshot, and what came from the cycle in progress. -/
theorem inOrder_change (h : tags.Keyed) :
    (change tags.difference.removed tags.difference.added).InOrder := by
  obtain ⟨hsnapshot, hinProgress, -⟩ := TagViews.keyed_iff.mp h
  intro texts htexts
  simp only [tagLists, List.mem_cons, List.not_mem_nil, or_false] at htexts
  rcases htexts with rfl | rfl
  · exact hsnapshot.inEpcOrder_keys.filter _
  · exact hinProgress.inEpcOrder_keys.filter _

end Report

/-- A report that a worker comes to is read off the views of this moment. -/
theorem Worker.Flow.inOrder {core : Core} {worker next : Worker} {choice : Choice}
    {frames : List Frame} {report : Report} (h : Flow core worker choice frames next)
    (hkeyed : core.tags.Keyed) (hnext : next.phase = .reporting report) : report.InOrder := by
  cases h with
  | collected =>
      obtain rfl := WorkerPhase.reporting.inj hnext
      exact Report.inOrder_finalReport hkeyed worker.plan
  | committed =>
      replace hnext : worker.afterCommit core = .reporting report := hnext
      cases hplan : worker.plan with
      | continuous requireFinalResult =>
          simp only [afterCommit, hplan] at hnext
          split at hnext
          · obtain rfl := WorkerPhase.reporting.inj hnext
            exact Report.inOrder_change hkeyed
          · cases hnext
      | bounded cycles diagnostic =>
          simp only [afterCommit, hplan] at hnext
          cases hnext
      | idle =>
          simp only [afterCommit, hplan] at hnext
          cases hnext
  | reported =>
      replace hnext : worker.afterReport = .reporting report := hnext
      cases hplan : worker.plan <;> simp only [afterReport, hplan] at hnext <;> cases hnext
  | _ => cases hnext

/-! ## What is about to be reported -/

/-- The report that is made in the next step. -/
def WorkerPhase.report? : WorkerPhase → Option Report
  | .reporting report => some report
  | _ => none

theorem WorkerPhase.report?_eq_some_iff {phase : WorkerPhase} {report : Report} :
    phase.report? = some report ↔ phase = .reporting report := by
  cases phase <;> simp [report?]

namespace System

variable {system next last : System} {action : Action} {actions : List Action}
  {events log : List Event}

/-- What the tasks are about to report is in the order of the EPCs. -/
structure Composed (system : System) : Prop where
  calls : ∀ thread counts, (system.placeOf thread).bind Call.contents? = some counts →
    (Report.contents counts).InOrder
  workers : ∀ run report,
    ((system.roster.worker? run).bind fun worker => worker.phase.report?) = some report →
      report.InOrder

theorem composed_initial (config : EngineConfig) (connected : Bool) :
    (initial config connected).Composed where
  calls thread counts h := by
    cases thread <;> cases h
  workers run report h := by
    cases h

theorem Composed.step (h : system.Composed) (hkeyed : system.core.tags.Keyed)
    (hstep : system.step action = some (next, events)) : next.Composed := by
  cases actionStep hstep with
  | carried thread choice call advance haction hplace hcall hengine hafter hothers =>
      constructor
      · intro other counts hcounts
        by_cases hown : other = thread
        · subst hown
          rw [hafter, Option.bind_some] at hcounts
          rw [Call.step_contents hcall hcounts]
          exact (Report.inOrder_counts (hkeyed _ (by simp [TagViews.all, core]))).1
        · rw [hothers other hown] at hcounts
          exact h.calls other counts hcounts
      · intro run report hreport
        rw [roster, hengine, (Call.step_runs hcall).1.bind_phase rfl run] at hreport
        exact h.workers run report hreport
  | worked run choice worker advance haction hworker hown hcore hroster hplaces =>
      constructor
      · rw [hplaces]
        exact h.calls
      · intro other report hreport
        rw [hroster, Roster.worker?_setWorker run other _ (by rw [hworker]; rfl)] at hreport
        by_cases heq : other = run
        · rw [if_pos heq, Option.bind_some, WorkerPhase.report?_eq_some_iff] at hreport
          exact (Worker.step_flow hown).inOrder hkeyed hreport
        · rw [if_neg heq] at hreport
          exact h.workers other report hreport
  | turned thread hthread hfail hbefore hafter hothers hcore hroster =>
      constructor
      · intro other counts hcounts
        by_cases hown : other = thread
        · subst hown
          obtain ⟨call, hcall, hcontents⟩ := Option.bind_eq_some_iff.mp hcounts
          obtain ⟨operation, rfl, -⟩ := hafter call hcall
          rw [Call.contents?_begin] at hcontents
          cases hcontents
        · rw [hothers other hown] at hcounts
          exact h.calls other counts hcounts
      · rw [hroster]
        exact h.workers
  | aside hthread htask hplaces hroster =>
      constructor
      · rw [hplaces]
        exact h.calls
      · rw [hroster]
        exact h.workers

theorem Composed.reported (h : system.Composed)
    (hstep : system.step action = some (next, events)) {report : Report}
    (hmem : report ∈ reportsOf events) : report.InOrder := by
  rcases reported_case hstep hmem with
    ⟨thread, counts, -, hcounts, rfl⟩ | ⟨run, worker, -, hworker, hphase⟩
  · exact h.calls thread counts hcounts
  · refine h.workers run report ?_
    rw [hworker, Option.bind_some, WorkerPhase.report?_eq_some_iff]
    exact hphase

/-- Reports are in order in every run in which the views stay keyed. -/
theorem Composed.run (h : system.Composed) (hsound : system.Sound)
    (hkeyed : system.core.tags.Keyed) (hrun : system.run actions = some (last, log)) :
    ∀ report ∈ reportsOf log, report.InOrder := by
  induction actions generalizing system log with
  | nil =>
      cases hrun
      simp
  | cons action actions ih =>
      obtain ⟨next, events, later, hstep, hrest, rfl⟩ := run_cons_case hrun
      have hnext : next.core.tags.Keyed := by
        rw [tags_step hsound.drained hstep]
        exact hkeyed.afterAll _
      intro report hmem
      rw [reportsOf_append, List.mem_append] at hmem
      rcases hmem with hnow | hlater
      · exact h.reported hstep hnow
      · exact ih (h.step hkeyed hstep) (hsound.step hstep) hnext hrest report hlater

/-! ## Keys and EPCs -/

/-- **Keys are an order embedding of EPCs.**  Texts are equal, and one comes before another, just
as the bytes that they stand for; and two observations are of one tag exactly when they have the
same key.  So the views, which know keys only, know tags:

* in every history, what a view finds under the key of an observation is what it keeps of the
  same tag; its tags ascend strictly by the bytes of their EPCs, and its keys are their texts;
* recording an observation changes what is found for its own tag, and for no other;
* what came and what left between two cycles is in the order of the EPCs.

In every run of an engine the views are those of a history, and every list of every report is in
the order of the EPCs. -/
theorem keys_embed_epcs :
    (∀ first second : List UInt8,
      (hexText first = hexText second ↔ first = second) ∧
        (hexText first < hexText second ↔ first < second)) ∧
    (∀ first second : TagRead, first.sameTag second = true ↔ first.key = second.key) ∧
    (∀ history,
      let views := TagViews.initial.afterAll history
      (∀ view ∈ views.all,
        (∀ read kept, view.find? read.key = some kept ↔
          kept ∈ view.tags ∧ kept.sameTag read = true) ∧
        (view.tags.map TagRead.epc).Pairwise (· < ·) ∧
        view.keys = (view.tags.map TagRead.epc).map hexText) ∧
      (∀ view ∈ [TagViews.pending, TagViews.accumulated, TagViews.occurrences], ∀ read other,
        (view (views.record read)).find? (TagRead.key other) =
          if other.sameTag read then some (views.observed read)
          else (view views).find? other.key) ∧
      InEpcOrder views.difference.added ∧ InEpcOrder views.difference.removed) ∧
    ∀ config connected actions system log,
      (initial config connected).run actions = some (system, log) →
        system.core.tags =
          TagViews.initial.afterAll ((initial config connected).tagHistory actions) ∧
        ∀ report ∈ reportsOf log, report.InOrder := by
  refine ⟨fun first second => ⟨hexText_eq_iff, hexText_lt_iff⟩,
    fun first second => TagRead.sameTag_iff_key, ?_, ?_⟩
  · intro history views
    have hkeyed : views.Keyed := TagViews.keyed_initial.afterAll history
    have hchange := Report.inOrder_change hkeyed
    refine ⟨?_, ?_, hchange _ (by simp [Report.tagLists]), hchange _ (by simp [Report.tagLists])⟩
    · intro view hview
      have hview := hkeyed view hview
      refine ⟨fun read kept => hview.find?_eq_some_iff, hview.pairwise_epcs, ?_⟩
      rw [hview.keys_eq, List.map_map]
      rfl
    · intro view hview read other
      exact TagViews.find?_record hview read other
  · intro config connected actions system log hrun
    have hsound : (initial config connected).Sound := sound_initial config connected
    exact ⟨tags_run hsound hrun,
      (composed_initial config connected).run hsound TagViews.keyed_initial hrun⟩

/-- The answer to a direct read that finds a tag. -/
private def answerWith (epc : List UInt8) : Frame :=
  .make broadcastAddress Command.read.code (encodeReadRecord 1 0x3000 0x1122 epc [] 0x05 1)

/-- Two tags are read on a connected engine, the later one first, and a caller asks for the
contents. -/
private def contentsAsked : List Action :=
  [.begin 0 .connect, .step (.caller 0) .proceed, .step (.caller 0) .proceed] ++
    ((answerWith [0xA0]).bytes ++ (answerWith [0x9F, 0x00]).bytes).map .receive ++
    [.begin 1 .reportContents] ++ List.replicate 3 (.step (.caller 1) .proceed)

/-- Two tags are seen, and the later one is seen again after it was moved. -/
private def seenAgain : List TagOperation :=
  [.record { epc := [0xA0], rssi := 40 }, .record { epc := [0x9F, 0x00] },
    .record { epc := [0xA0], rssi := 50 }]

theorem keys_embed_epcs_of_contentsAsked :
    let views := TagViews.initial.afterAll seenAgain
    (∃ kept ∈ views.pending.tags, kept.sameTag { epc := [0xA0] } = true ∧ kept.rssi = 40) ∧
      (views.record { epc := [0xA0] }).pending.find? "9F00" = views.pending.find? "9F00" ∧
      ((initial .standard true).run contentsAsked).map (fun entry => reportsOf entry.2) =
        some [.contents [("9F00", 1), ("A0", 1)]] ∧
      InEpcOrder ["9F00", "A0"] := by
  intro views
  obtain ⟨-, -, hhistories, hruns⟩ := keys_embed_epcs
  obtain ⟨hkept, hrecord, -⟩ := hhistories seenAgain
  have hshown : ((initial .standard true).run contentsAsked).map
      (fun entry => reportsOf entry.2) = some [.contents [("9F00", 1), ("A0", 1)]] := by
    decide +kernel
  refine ⟨?_, ?_, hshown, ?_⟩
  · have hfind : (views.pending.find? (TagRead.key { epc := [0xA0] })).map TagRead.rssi =
        some 40 := by decide +kernel
    obtain ⟨kept, hfind, hrssi⟩ := Option.map_eq_some_iff.mp hfind
    obtain ⟨hlookup, -⟩ := hkept views.pending (by simp [TagViews.all, views])
    obtain ⟨hmem, hsame⟩ := (hlookup { epc := [0xA0] } kept).mp hfind
    exact ⟨kept, hmem, hsame, hrssi⟩
  · exact hrecord TagViews.pending (List.mem_cons_self ..) { epc := [0xA0] } { epc := [0x9F, 0x00] }
  · obtain ⟨⟨system, log⟩, hrun, hreports⟩ := Option.map_eq_some_iff.mp hshown
    have hinOrder := (hruns _ _ _ _ _ hrun).2 (.contents [("9F00", 1), ("A0", 1)]) (by
      rw [hreports]
      exact List.mem_singleton_self _)
    exact hinOrder _ (List.mem_singleton_self _)

end System

end TagInventory
