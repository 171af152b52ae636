import TagInventory.Proofs.Tag.History

/-!
# How often the tags of a run were seen

The observation that stands for a tag of the current run is the one that stands for its
occurrences, with the same number (`TagViews.seen_accumulated`).  Occurrences are counted anew
by diagnostic runs only, while every run empties the tags of the run before it.  So the number
of a tag is how often it was read in this run, and in the earlier ones since the last
diagnostic run began: these earlier reads are carried over (`carriedOver`).
-/

namespace TagInventory

/-! ## Runs and counts -/

/-- The EPCs that were recorded before the current run and since occurrences were counted anew.
-/
def carriedOver (history : List TagOperation) : List (List UInt8) :=
  recordedSince TagOperation.restartsCounts
    (history.rdropWhile fun operation => !operation.startsRun)

theorem carriedOver_concat (history : List TagOperation) (operation : TagOperation) :
    carriedOver (history ++ [operation]) =
      if operation.startsRun then
        recordedSince TagOperation.restartsCounts (history ++ [operation])
      else carriedOver history := by
  rw [carriedOver, List.rdropWhile_concat]
  cases operation.startsRun with
  | true => rfl
  | false => rfl

/-- What was recorded since occurrences were counted anew was recorded in an earlier run or in
the current one. -/
theorem carriedOver_append (history : List TagOperation) :
    carriedOver history ++ recordedSince TagOperation.startsRun history =
      recordedSince TagOperation.restartsCounts history := by
  induction history using List.reverseRec with
  | nil => rfl
  | append_singleton history operation ih =>
      rw [carriedOver_concat]
      cases operation with
      | beginRun countOccurrences =>
          rw [recordedSince_concat TagOperation.startsRun]
          exact List.append_nil _
      | _ =>
          rw [recordedSince_concat, recordedSince_concat, ← ih]
          exact (List.append_assoc ..).symm

theorem count_recordedSince (history : List TagOperation) (epc : List UInt8) :
    (recordedSince TagOperation.restartsCounts history).count epc =
      (recordedSince TagOperation.startsRun history).count epc +
        (carriedOver history).count epc := by
  rw [← carriedOver_append, List.count_append, Nat.add_comm]

/-- A diagnostic run has nothing carried over to it. -/
theorem carriedOver_of_diagnostic {earlier later : List TagOperation}
    (h : ∀ operation ∈ later, operation.startsRun = false) :
    carriedOver (earlier ++ .beginRun true :: later) = [] := by
  induction later using List.reverseRec with
  | nil =>
      rw [carriedOver_concat, recordedSince_concat]
      rfl
  | append_singleton later operation ih =>
      have hlater := ih fun other hother => h other (List.mem_append_left _ hother)
      rw [← List.cons_append, ← List.append_assoc, carriedOver_concat, h operation (by simp)]
      exact hlater

namespace TagViews

/-! ## One number for two views -/

/-- Every tag of the run has the number of its occurrences. -/
def Tallied (views : TagViews) : Prop :=
  ∀ text ∈ views.accumulated.keys, views.accumulated.seen text = views.occurrences.seen text

theorem Tallied.after {views : TagViews} (h : views.Tallied) (operation : TagOperation) :
    (views.after operation).Tallied := by
  cases operation with
  | beginRun countOccurrences =>
      intro text htext
      cases htext
  | record read =>
      intro text htext
      show (views.accumulated.insert read.key (views.observed read)).seen text =
        (views.occurrences.insert read.key (views.observed read)).seen text
      rw [View.seen_insert, View.seen_insert]
      split
      · rfl
      · rename_i hother
        rcases View.mem_keys_insert.mp htext with heq | hmem
        · exact absurd heq hother
        · exact h text hmem
  | beginCycle | beginBufferRead | absorb | commit => exact h

theorem tallied_afterAll (history : List TagOperation) :
    (initial.afterAll history).Tallied := by
  induction history using List.reverseRec with
  | nil =>
      intro text htext
      cases htext
  | append_singleton history operation ih =>
      rw [afterAll_concat]
      exact ih.after operation

/-- The tags of a run are counted with what is carried over to it. -/
theorem mem_counts_accumulated {history : List TagOperation}
    (hfew : (recorded history).length < UInt32.size) {text : String} {number : UInt32} :
    (text, number) ∈ (initial.afterAll history).accumulated.counts ↔
      ∃ epc ∈ recordedSince TagOperation.startsRun history, hexText epc = text ∧
        number.toNat = (recordedSince TagOperation.startsRun history).count epc +
          (carriedOver history).count epc := by
  have htallied := tallied_afterAll history
  have hkeys := collects_accumulated.holds history
  rw [View.mem_counts]
  constructor
  · rintro ⟨htext, rfl⟩
    obtain ⟨epc, hepc, rfl⟩ := (hkeys text).mp htext
    refine ⟨epc, hepc, rfl, ?_⟩
    rw [htallied _ htext, toNat_seen_hexText hfew, count_recordedSince]
  · rintro ⟨epc, hepc, rfl, hnumber⟩
    have htext := (hkeys (hexText epc)).mpr ⟨epc, hepc, rfl⟩
    refine ⟨htext, UInt32.toNat_inj.mp ?_⟩
    rw [htallied _ htext, toNat_seen_hexText hfew, count_recordedSince, hnumber]

/-- The tags of a run are counted as often as they were read in it exactly when nothing that was
read in it is carried over. -/
theorem counts_accumulated_iff {history : List TagOperation}
    (hfew : (recorded history).length < UInt32.size) :
    (∀ text number, (text, number) ∈ (initial.afterAll history).accumulated.counts ↔
        ∃ epc ∈ recordedSince TagOperation.startsRun history, hexText epc = text ∧
          number.toNat = (recordedSince TagOperation.startsRun history).count epc) ↔
      ∀ epc ∈ recordedSince TagOperation.startsRun history, epc ∉ carriedOver history := by
  constructor
  · intro hexact epc hepc hcarried
    have htext := (collects_accumulated.holds history (hexText epc)).mpr ⟨epc, hepc, rfl⟩
    have hmem := View.mem_counts.mpr ⟨htext, rfl⟩
    obtain ⟨first, -, hfirst, hall⟩ := (mem_counts_accumulated hfew).mp hmem
    obtain ⟨second, -, hsecond, hown⟩ := (hexact _ _).mp hmem
    cases hexText_inj hfirst
    cases hexText_inj hsecond
    -- the number in the view would count the earlier reading, too
    have hpos : 0 < (carriedOver history).count epc := List.count_pos_iff.mpr hcarried
    omega
  · intro hnone text number
    rw [mem_counts_accumulated hfew]
    refine exists_congr fun epc => and_congr_right fun hepc => ?_
    rw [List.count_eq_zero_of_not_mem (hnone epc hepc), Nat.add_zero]

end TagViews

end TagInventory
