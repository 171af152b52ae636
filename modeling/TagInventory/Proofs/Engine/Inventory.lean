import TagInventory.Proofs.Engine.Cycle

/-!
# What a run reports

The reports of a whole run over some polls, from its first cycle on.  A continuous run
compares each poll with the one before (`Scene.continuous`).  A bounded run counts:
`TagViews.Counted` says which tags the views hold after some polls and how often each was
seen, and the report at the end is read off the views (`Scene.bounded`).
-/

namespace TagInventory

/-! ## Changes -/

/-- The report of what came and what went between two cycles, if anything did. -/
def changeReport (before now : List String) : List Report :=
  let removed := sortedSet (before.filter fun text => text ∉ now)
  let added := sortedSet (now.filter fun text => text ∉ before)
  if removed = [] ∧ added = [] then [] else [.change removed added]

/-- The reports of cycles that follow each other. -/
def changeReports (before : List String) : List (List String) → List Report
  | [] => []
  | now :: later => changeReport before now ++ changeReports now later

namespace TagViews

/-- The report of a cycle that is committed. -/
theorem changeReport_eq {views : TagViews} {before now : List String}
    (hbefore : ∀ key, key ∈ views.snapshot.keys ↔ key ∈ before)
    (hnow : ∀ key, key ∈ views.inProgress.keys ↔ key ∈ now) :
    changeReport before now =
      if views.difference.isEmpty then []
      else [.change views.difference.removed views.difference.added] := by
  have hremoved : views.difference.removed =
      sortedSet (before.filter fun text => text ∉ now) := by
    refine eq_sortedSet (views.snapshot.pairwise_keys.filter _) ?_
    intro key
    simp [difference, View.contains, hbefore, hnow]
  have hadded : views.difference.added =
      sortedSet (now.filter fun text => text ∉ before) := by
    refine eq_sortedSet (views.inProgress.pairwise_keys.filter _) ?_
    intro key
    simp [difference, View.contains, hbefore, hnow]
  unfold changeReport
  rw [← hremoved, ← hadded]
  simp [Difference.isEmpty, and_comm]

/-! ## Counts -/

/-- What some polls add to the views of a run. -/
structure Counted (before : TagViews) (found : List (List String)) (after : TagViews) : Prop where
  mem_accumulated : ∀ key, key ∈ after.accumulated.keys ↔
    key ∈ before.accumulated.keys ∨ key ∈ found.flatten
  mem_occurrences : ∀ key, key ∈ after.occurrences.keys ↔
    key ∈ before.occurrences.keys ∨ key ∈ found.flatten
  seen_eq : ∀ key, after.occurrences.seen key =
    before.occurrences.seen key + UInt32.ofNat (found.countP fun texts => key ∈ texts)

theorem counted_nil (views : TagViews) : views.Counted [] views where
  mem_accumulated := by simp
  mem_occurrences := by simp
  seen_eq := by simp

theorem Polled.counted {before middle after : TagViews} {texts : List String}
    {found : List (List String)} (hpolled : before.Polled texts middle)
    (hcounted : middle.commit.Counted found after) : before.Counted (texts :: found) after where
  mem_accumulated := by
    intro key
    refine (hcounted.mem_accumulated key).trans ?_
    rw [List.flatten_cons, List.mem_append, ← or_assoc, ← hpolled.mem_accumulated]
    rfl
  mem_occurrences := by
    intro key
    refine (hcounted.mem_occurrences key).trans ?_
    rw [List.flatten_cons, List.mem_append, ← or_assoc, ← hpolled.mem_occurrences]
    rfl
  seen_eq := by
    intro key
    have hseen := hpolled.seen_eq key
    refine (hcounted.seen_eq key).trans ?_
    show middle.occurrences.seen key + _ = _
    rw [hseen, UInt32.add_assoc, List.countP_cons, Nat.add_comm, UInt32.ofNat_add]
    congr 2
    by_cases hmem : key ∈ texts
    · simp [hmem]
    · simp [hmem]

/-- The contents after a run that began without any. -/
theorem Counted.map_fst_counts {before after : TagViews} {found : List (List String)}
    (h : before.Counted found after) (hempty : before.accumulated = .empty) :
    after.accumulated.counts.map Prod.fst = sortedSet found.flatten := by
  have hkeys : after.accumulated.keys = sortedSet found.flatten := by
    refine View.keys_eq_sortedSet ?_
    intro key
    rw [h.mem_accumulated, hempty]
    simp
  rw [View.map_fst_counts, hkeys]

/-- The occurrences after a run that began without any. -/
theorem Counted.counts_occurrences {before after : TagViews} {found : List (List String)}
    (h : before.Counted found after) (hempty : before.occurrences = .empty) :
    after.occurrences.counts = (sortedSet found.flatten).map fun text =>
      (text, UInt32.ofNat (found.countP fun texts => text ∈ texts)) := by
  have hkeys : after.occurrences.keys = sortedSet found.flatten := by
    refine View.keys_eq_sortedSet ?_
    intro key
    rw [h.mem_occurrences, hempty]
    simp
  have hseen (key : String) : after.occurrences.seen key =
      UInt32.ofNat (found.countP fun texts => key ∈ texts) := by
    rw [h.seen_eq, hempty, View.seen_empty, UInt32.zero_add]
  rw [View.counts_eq, hkeys]
  simp only [hseen]

end TagViews

/-! ## Runs -/

namespace Scene

variable {Goal : List Report → Scene → Prop} {reports : List Report} {core : Core}
  {polls rest : List Poll} {current : Option Poll}

/-- The end of a cycle whose result counts: a change is reported. -/
theorem commit {completed attempt attempts : Nat} {interval : UInt64} {reader : PollingReader}
    (hline : reader.line = [])
    (hnext : Inevitable Step Goal
      (reports ++ if core.tags.difference.isEmpty then []
        else [.change core.tags.difference.removed core.tags.difference.added])
      ⟨{ core with tags := core.tags.commit },
        ⟨.continuous true, .pausing, false, completed, attempt, attempts, interval⟩, reader⟩) :
    Inevitable Step Goal reports
      ⟨core, ⟨.continuous true, .committing, false, completed, attempt, attempts, interval⟩,
        reader⟩ := by
  have hnotes : (core.tags.differenceNotices.map Event.noted ++
      (core.tags.noticesOf .commit).map Event.noted).all Event.isNote = true := by
    simp [Event.isNote]
  by_cases hempty : core.tags.difference.isEmpty = true
  · rw [if_pos hempty, List.append_nil] at hnext
    refine proceed_noted hline rfl ?_ hnotes hnext
    unfold Worker.step
    simp [Worker.commitCycle, Worker.goto, Core.tagOperation, TagViews.after, hempty]
  · rw [if_neg hempty] at hnext
    have hchanged : Worker.step core
        ⟨.continuous true, .committing, false, completed, attempt, attempts, interval⟩ .proceed =
          some ⟨{ core with tags := core.tags.commit },
            ⟨.continuous true,
              .reporting (.change core.tags.difference.removed core.tags.difference.added),
              false, completed, attempt, attempts, interval⟩,
            core.tags.differenceNotices.map .noted ++
              (core.tags.noticesOf .commit).map .noted⟩ := by
      unfold Worker.step
      simp [Worker.commitCycle, Worker.goto, Core.tagOperation, TagViews.after, hempty]
    refine proceed_noted hline rfl hchanged hnotes ?_
    exact proceed hline rfl rfl hnext

/-- A continuous run with one poll to a cycle reports the changes from poll to poll. -/
theorem continuous {completed attempt : Nat} {interval : UInt64} {before : List String}
    (hready : core.Ready) (hone : core.pollCount = 1)
    (hpolls : ∀ poll ∈ polls, poll.WellFormed)
    (hbefore : ∀ key, key ∈ core.tags.snapshot.keys ↔ key ∈ before)
    (hgoal : ∀ core' attempt interval current, Goal
      (reports ++ changeReports before (polls.map Poll.texts))
      ⟨core', ⟨.continuous true, .choosing, false, completed, attempt, 1, interval⟩,
        ⟨[], current, rest⟩⟩) :
    Inevitable Step Goal reports
      ⟨core, ⟨.continuous true, .choosing, false, completed, attempt, 1, interval⟩,
        ⟨[], current, polls ++ rest⟩⟩ := by
  induction polls generalizing reports core attempt interval before current with
  | nil =>
      refine .now ?_
      have h := hgoal core attempt interval current
      rw [List.map_nil, changeReports, List.append_nil] at h
      exact h
  | cons poll polls ih =>
      have htuned : Worker.step core
          ⟨.continuous true, .tuning, false, completed, attempt, 1, interval⟩ .proceed =
            some ⟨core, ⟨.continuous true, .openingCycle, false, completed, attempt, 1,
              core.pollInterval⟩, []⟩ := by
        unfold Worker.step
        simp [Worker.move, hone]
      refine proceed_noted rfl rfl rfl rfl ?_
      refine proceed_noted rfl rfl htuned rfl ?_
      refine cycle hready (hpolls poll (List.mem_cons_self ..)) ?_
      intro core₁ hready₁ hcount hpolled
      have hbefore₁ (key : String) : key ∈ core₁.tags.snapshot.keys ↔ key ∈ before := by
        rw [hpolled.snapshot_eq]
        exact hbefore key
      refine commit rfl ?_
      rw [← TagViews.changeReport_eq hbefore₁ hpolled.mem_inProgress]
      refine pause rfl rfl rfl rfl rfl ?_
      refine ih (hready₁.setTags core₁.tags.commit) (hcount.trans hone)
        (fun later hlater => hpolls later (List.mem_cons_of_mem _ hlater))
        hpolled.mem_inProgress ?_
      intro core' attempt interval current
      rw [List.append_assoc]
      exact hgoal core' attempt interval current

/-- A bounded run has one poll to a cycle, and reports at the end. -/
theorem bounded {cycles interval : UInt64} {diagnostic : Bool} {completed attempt : Nat}
    (hready : core.Ready) (hpolls : ∀ poll ∈ polls, poll.WellFormed)
    (hcycles : completed + polls.length = cycles.toNat)
    (hgoal : ∀ core' attempt interval current,
      core.tags.Counted (polls.map Poll.texts) core'.tags → Goal
        (reports ++ [Worker.finalReport (.bounded cycles diagnostic) core'.tags])
        ⟨core', ⟨.bounded cycles diagnostic, .exited, false, cycles.toNat, attempt, 1, interval⟩,
          ⟨[], current, rest⟩⟩) :
    Inevitable Step Goal reports
      ⟨core, ⟨.bounded cycles diagnostic, .choosing, false, completed, attempt, 1, interval⟩,
        ⟨[], current, polls ++ rest⟩⟩ := by
  induction polls generalizing core completed attempt interval current with
  | nil =>
      have hdone : completed = cycles.toNat := hcycles
      subst hdone
      have hchosen : Worker.step core
          ⟨.bounded cycles diagnostic, .choosing, false, cycles.toNat, attempt, 1, interval⟩
            .proceed =
              some ⟨core, ⟨.bounded cycles diagnostic, .collecting, false, cycles.toNat, attempt, 1,
                interval⟩, [.noted .runCompleted]⟩ := by
        unfold Worker.step
        simp [Worker.move, Worker.goto]
      refine proceed_noted rfl rfl hchosen rfl ?_
      refine proceed_noted rfl rfl rfl rfl ?_
      refine proceed rfl rfl rfl ?_
      refine proceed_noted rfl rfl rfl rfl ?_
      refine .now ?_
      exact hgoal { core with inventoryActive := false } attempt interval current
        core.tags.counted_nil
  | cons poll polls ih =>
      rw [List.length_cons] at hcycles
      have hmore : completed < cycles.toNat := by
        omega
      have hchosen : Worker.step core
          ⟨.bounded cycles diagnostic, .choosing, false, completed, attempt, 1, interval⟩
            .proceed =
              some ⟨core, ⟨.bounded cycles diagnostic, .openingCycle, false, completed, attempt, 1,
                interval⟩, []⟩ := by
        unfold Worker.step
        simp [Worker.move, Worker.goto, hmore]
      refine proceed_noted rfl rfl hchosen rfl ?_
      refine cycle hready (hpolls poll (List.mem_cons_self ..)) ?_
      intro core₁ hready₁ _ hpolled
      have hlater : Inevitable Step Goal reports
          ⟨{ core₁ with tags := core₁.tags.commit },
            ⟨.bounded cycles diagnostic, .choosing, false, completed + 1, 0, 1,
              core₁.pollInterval⟩, ⟨[], some poll, polls ++ rest⟩⟩ := by
        refine ih (hready₁.setTags core₁.tags.commit)
          (fun later hlater => hpolls later (List.mem_cons_of_mem _ hlater)) (by omega) ?_
        intro core' attempt interval current hcounted
        exact hgoal core' attempt interval current (hpolled.counted hcounted)
      refine proceed_noted rfl rfl rfl ?_ ?_
      · simp [Event.isNote]
      by_cases hlast : completed + 1 < cycles.toNat
      · have hspaced : Worker.step { core₁ with tags := core₁.tags.commit }
            ⟨.bounded cycles diagnostic, .spacing, false, completed, 0, 1, interval⟩ .proceed =
              some ⟨{ core₁ with tags := core₁.tags.commit },
                ⟨.bounded cycles diagnostic, .pausing, false, completed + 1, 0, 1,
                  core₁.pollInterval⟩, []⟩ := by
          unfold Worker.step
          simp [Worker.move, Worker.goto, hlast]
        refine proceed_noted rfl rfl hspaced rfl ?_
        exact pause rfl rfl rfl rfl rfl hlater
      · have hspaced : Worker.step { core₁ with tags := core₁.tags.commit }
            ⟨.bounded cycles diagnostic, .spacing, false, completed, 0, 1, interval⟩ .proceed =
              some ⟨{ core₁ with tags := core₁.tags.commit },
                ⟨.bounded cycles diagnostic, .choosing, false, completed + 1, 0, 1,
                  core₁.pollInterval⟩, []⟩ := by
          unfold Worker.step
          simp [Worker.move, Worker.goto, hlast]
        exact proceed_noted rfl rfl hspaced rfl hlater

end Scene

end TagInventory
