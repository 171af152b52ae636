import TagInventory.Proofs.Tag.History

/-!
# Comparing a cycle with the snapshot

Before a cycle is committed, it is compared with the snapshot.  The difference of the two is a
matter of sets of EPCs: how often a tag was recorded, in which order, and what else its reads
said does not show in it.  And nothing gets lost from one cycle to the next: whoever applies the
differences of some cycles in order to the snapshot at the start has the snapshot at the end
(`TagViews.difference_of_history`).

## Strategy

* `Difference.Between`: what a difference is to two lists of texts.  It is determined by the sets
  of the two (`Difference.Between.eq_between`), and brings the first list to the second
  (`Difference.Between.applyTo_eq`).
* A history that commits is compared before each commit (`TagViews.compared`).  Only a commit
  changes the snapshot, so one induction over the history adds the differences up.
* The views after a whole cycle (`cycleOf`) are known by their keys from the reads of its buffer
  reads.
-/

namespace TagInventory

/-! ## Differences -/

namespace Difference

/-- What is left of some texts when the removed ones leave and the added ones come. -/
def applyTo (texts : List String) (difference : Difference) : List String :=
  sortedSet ((texts.filter fun text => text ∉ difference.removed) ++ difference.added)

/-- The difference of two sets of texts. -/
def between (before now : List String) : Difference where
  added := sortedSet (now.filter fun text => text ∉ before)
  removed := sortedSet (before.filter fun text => text ∉ now)

/-- A difference says what came and what left between two lists of texts, each text once and in
order. -/
structure Between (difference : Difference) (before now : List String) : Prop where
  mem_added : ∀ text, text ∈ difference.added ↔ text ∈ now ∧ text ∉ before
  mem_removed : ∀ text, text ∈ difference.removed ↔ text ∈ before ∧ text ∉ now
  ascending_added : difference.added.Pairwise (· < ·)
  ascending_removed : difference.removed.Pairwise (· < ·)

theorem isEmpty_iff {difference : Difference} :
    difference.isEmpty = true ↔ difference.added = [] ∧ difference.removed = [] := by
  simp [isEmpty]

variable {difference : Difference} {before now : List String}

theorem Between.disjoint (h : difference.Between before now) :
    difference.added.Disjoint difference.removed := by
  intro text hadded hremoved
  have hnow := ((h.mem_added text).mp hadded).1
  exact ((h.mem_removed text).mp hremoved).2 hnow

/-- The texts before, without the ones that left and with the ones that came, are those of now. -/
theorem Between.applyTo_eq (h : difference.Between before now) (hnow : now.Pairwise (· < ·)) :
    difference.applyTo before = now := by
  refine (eq_sortedSet hnow ?_).symm
  intro text
  rw [List.mem_append, List.mem_filter, decide_eq_true_eq, h.mem_added, h.mem_removed]
  tauto

/-- There is one difference of two sets of texts, whatever lists the sets are given by. -/
theorem Between.eq_between (h : difference.Between before now) {others news : List String}
    (hbefore : ∀ text, text ∈ before ↔ text ∈ others) (hnow : ∀ text, text ∈ now ↔ text ∈ news) :
    difference = between others news := by
  have hadded : difference.added = (between others news).added := by
    refine eq_sortedSet h.ascending_added ?_
    intro text
    rw [h.mem_added, List.mem_filter, decide_eq_true_eq, hnow, hbefore]
  have hremoved : difference.removed = (between others news).removed := by
    refine eq_sortedSet h.ascending_removed ?_
    intro text
    rw [h.mem_removed, List.mem_filter, decide_eq_true_eq, hnow, hbefore]
  cases difference
  cases hadded
  cases hremoved
  rfl

/-- Nothing came and nothing left exactly when the two sets are the same. -/
theorem Between.isEmpty_iff (h : difference.Between before now) :
    difference.isEmpty = true ↔ ∀ text, text ∈ before ↔ text ∈ now := by
  rw [Difference.isEmpty_iff, List.eq_nil_iff_forall_not_mem, List.eq_nil_iff_forall_not_mem,
    ← forall_and]
  refine forall_congr' fun text => ?_
  rw [h.mem_added, h.mem_removed]
  tauto

end Difference

namespace View

variable {first second : View} {epcs others : Set (List UInt8)}

theorem Holds.mem_hexText (h : first.Holds epcs) (epc : List UInt8) :
    hexText epc ∈ first.keys ↔ epc ∈ epcs := by
  rw [h]
  constructor
  · rintro ⟨other, hother, heq⟩
    cases hexText_inj heq
    exact hother
  · exact fun hepc => ⟨epc, hepc, rfl⟩

/-- The keys that only one of two views has are the texts of the EPCs that only one of two sets
has. -/
theorem Holds.mem_keys_diff (hfirst : first.Holds epcs) (hsecond : second.Holds others)
    (text : String) :
    text ∈ first.keys ∧ text ∉ second.keys ↔ ∃ epc ∈ epcs \ others, hexText epc = text := by
  constructor
  · rintro ⟨hmem, hnot⟩
    obtain ⟨epc, hepc, rfl⟩ := (hfirst text).mp hmem
    rw [hsecond.mem_hexText] at hnot
    exact ⟨epc, ⟨hepc, hnot⟩, rfl⟩
  · rintro ⟨epc, ⟨hepc, hnot⟩, rfl⟩
    rw [hfirst.mem_hexText, hsecond.mem_hexText]
    exact ⟨hepc, hnot⟩

/-- Views of two sets of EPCs have the same keys exactly when the sets are the same. -/
theorem Holds.mem_keys_iff (hfirst : first.Holds epcs) (hsecond : second.Holds others) :
    (∀ text, text ∈ first.keys ↔ text ∈ second.keys) ↔ epcs = others := by
  constructor
  · intro hkeys
    ext epc
    have hepc := hkeys (hexText epc)
    rwa [hfirst.mem_hexText, hsecond.mem_hexText] at hepc
  · rintro rfl text
    rw [hfirst, hsecond]

end View

/-! ## Cycles -/

/-- What is done to the views in one buffer read. -/
def bufferReadOf (reads : List TagRead) : List TagOperation :=
  .beginBufferRead :: (reads.map .record ++ [.absorb])

/-- What is done to the views in a cycle of some buffer reads, up to its commit. -/
def cycleOf (bufferReads : List (List TagRead)) : List TagOperation :=
  .beginCycle :: bufferReads.flatMap bufferReadOf

/-- The texts of all tags of some buffer reads. -/
def textsOf (bufferReads : List (List TagRead)) : List String :=
  bufferReads.flatten.map TagRead.key

namespace TagViews

theorem afterAll_bufferReadOf (views : TagViews) (reads : List TagRead) :
    views.afterAll (bufferReadOf reads) = (views.beginBufferRead.recordAll reads).absorb := by
  rw [bufferReadOf, afterAll_cons, afterAll_concat, afterAll, List.foldl_map]
  rfl

theorem snapshot_bufferReads (views : TagViews) (bufferReads : List (List TagRead)) :
    (views.afterAll (bufferReads.flatMap bufferReadOf)).snapshot = views.snapshot := by
  induction bufferReads generalizing views with
  | nil => rfl
  | cons reads bufferReads ih =>
      rw [List.flatMap_cons, afterAll_append, ih, afterAll_bufferReadOf]
      exact snapshot_recordAll _ reads

theorem mem_inProgress_bufferReads (views : TagViews) (bufferReads : List (List TagRead))
    (text : String) :
    text ∈ (views.afterAll (bufferReads.flatMap bufferReadOf)).inProgress.keys ↔
      text ∈ views.inProgress.keys ∨ text ∈ textsOf bufferReads := by
  induction bufferReads generalizing views with
  | nil => simp [textsOf]
  | cons reads bufferReads ih =>
      have hread : text ∈ (views.afterAll (bufferReadOf reads)).inProgress.keys ↔
          text ∈ views.inProgress.keys ∨ text ∈ reads.map TagRead.key := by
        rw [afterAll_bufferReadOf, absorb, View.mem_keys_merge, inProgress_recordAll,
          mem_pending_recordAll]
        simp [beginBufferRead]
      rw [List.flatMap_cons, afterAll_append, ih, hread, textsOf, textsOf, List.flatten_cons,
        List.map_append, List.mem_append, or_assoc]

theorem snapshot_cycleOf (views : TagViews) (bufferReads : List (List TagRead)) :
    (views.afterAll (cycleOf bufferReads)).snapshot = views.snapshot :=
  snapshot_bufferReads views.beginCycle bufferReads

/-- A cycle holds the tags of its buffer reads, whatever was there before. -/
theorem mem_inProgress_cycleOf (views : TagViews) (bufferReads : List (List TagRead))
    (text : String) :
    text ∈ (views.afterAll (cycleOf bufferReads)).inProgress.keys ↔
      text ∈ textsOf bufferReads := by
  have hall := mem_inProgress_bufferReads views.beginCycle bufferReads text
  have hempty : text ∉ views.beginCycle.inProgress.keys := List.not_mem_nil
  exact hall.trans (or_iff_right hempty)

/-! ## The difference of two views -/

/-- The difference lies between the snapshot and the cycle in progress. -/
theorem difference_between (views : TagViews) :
    views.difference.Between views.snapshot.keys views.inProgress.keys where
  mem_added text := by simp [difference, View.contains]
  mem_removed text := by simp [difference, View.contains]
  ascending_added := views.inProgress.pairwise_keys.filter _
  ascending_removed := views.snapshot.pairwise_keys.filter _

theorem difference_cycles (views : TagViews) (first second : List (List TagRead)) :
    (views.afterAll (cycleOf first ++ .commit :: cycleOf second)).difference =
      .between (textsOf first) (textsOf second) := by
  rw [afterAll_append, afterAll_cons]
  refine (difference_between _).eq_between ?_ ?_
  · intro text
    rw [snapshot_cycleOf]
    exact mem_inProgress_cycleOf views first text
  · exact mem_inProgress_cycleOf _ second

/-- The second cycle reads the tag that both have twice, in another order. -/
example (views : TagViews) :
    (views.afterAll (cycleOf [[{ epc := [0x0A] }, { epc := [0x0B] }]] ++
        .commit :: cycleOf [[{ epc := [0x0C] }, { epc := [0x0B] }],
          [{ epc := [0x0B] }]])).difference =
      ⟨["0C"], ["0A"]⟩ := by
  rw [difference_cycles]
  decide

/-! ## Adding differences up -/

/-- The views after a history whose every commit comes behind a comparison, with the differences
that were found. -/
def compared (views : TagViews) : List TagOperation → List Difference × TagViews
  | [] => ([], views)
  | operation :: later =>
    let rest := compared (views.after operation) later
    if operation = .commit then (views.difference :: rest.1, rest.2) else rest

theorem compared_snd (views : TagViews) (later : List TagOperation) :
    (views.compared later).2 = views.afterAll later := by
  induction later generalizing views with
  | nil => rfl
  | cons operation later ih =>
      rw [compared, afterAll_cons, ← ih]
      split <;> rfl

theorem snapshot_after_of_ne {operation : TagOperation} (h : operation ≠ .commit)
    (views : TagViews) : (views.after operation).snapshot = views.snapshot := by
  cases operation with
  | commit => exact absurd rfl h
  | _ => rfl

/-- The differences bring the snapshot at the start to the snapshot at the end. -/
theorem foldl_compared (views : TagViews) (later : List TagOperation) :
    (views.compared later).1.foldl Difference.applyTo views.snapshot.keys =
      (views.afterAll later).snapshot.keys := by
  induction later generalizing views with
  | nil => rfl
  | cons operation later ih =>
      rw [compared, afterAll_cons, ← ih]
      split
      · rename_i hcommit
        -- the cycle that the difference brings the snapshot to is the next snapshot
        have happlied : views.difference.applyTo views.snapshot.keys = views.commit.snapshot.keys :=
          views.difference_between.applyTo_eq views.inProgress.pairwise_keys
        rw [List.foldl_cons, happlied, hcommit]
        rfl
      · rename_i hother
        rw [snapshot_after_of_ne hother]

/-! ## Every history -/

/-- **Differences are an algebra of sets.**  After any history of operations

* the added texts are those of the cycle in progress that are not in the snapshot, and the
  removed ones those of the snapshot that are not in the cycle, each of them once, in strictly
  ascending order; they stand for the EPCs that the cycle absorbed and that were not committed,
  and the other way round;
* no text was both added and removed;
* the snapshot without the removed texts and with the added ones is the cycle in progress;
* nothing is left to compare behind a commit, and elsewhere the difference is empty exactly when
  the cycle absorbed the EPCs that were committed;
* the difference of two cycles in a row is that of the sets of their texts, however often and in
  whatever order tags were recorded, and whatever else their reads said;
* comparing before each commit of what happens later changes nothing in the views, and the
  differences that are found bring the snapshot to the last one. -/
theorem difference_of_history (history : List TagOperation) :
    let views := initial.afterAll history
    views.difference.Between views.snapshot.keys views.inProgress.keys ∧
      (∀ text, text ∈ views.difference.added ↔
        ∃ epc ∈ absorbed history \ committed history, hexText epc = text) ∧
      (∀ text, text ∈ views.difference.removed ↔
        ∃ epc ∈ committed history \ absorbed history, hexText epc = text) ∧
      views.difference.added.Disjoint views.difference.removed ∧
      views.difference.applyTo views.snapshot.keys = views.inProgress.keys ∧
      (initial.afterAll (history ++ [.commit])).difference = ⟨[], []⟩ ∧
      (views.difference.isEmpty = true ↔ absorbed history = committed history) ∧
      (∀ first second : List (List TagRead),
        (views.afterAll (cycleOf first ++ .commit :: cycleOf second)).difference =
          .between (textsOf first) (textsOf second)) ∧
      ∀ later, (views.compared later).2 = views.afterAll later ∧
        (views.compared later).1.foldl Difference.applyTo views.snapshot.keys =
          (views.afterAll later).snapshot.keys := by
  intro views
  have hbetween := views.difference_between
  have hcycle : views.inProgress.Holds (absorbed history) := holds_inProgress history
  have hsnapshot : views.snapshot.Holds (committed history) := holds_snapshot history
  refine ⟨hbetween, ?_, ?_, hbetween.disjoint,
    hbetween.applyTo_eq views.inProgress.pairwise_keys, ?_, ?_, views.difference_cycles, ?_⟩
  · intro text
    rw [hbetween.mem_added, hcycle.mem_keys_diff hsnapshot]
  · intro text
    rw [hbetween.mem_removed, hsnapshot.mem_keys_diff hcycle]
  · rw [afterAll_concat]
    -- behind a commit the cycle in progress is the snapshot
    obtain ⟨hadded, hremoved⟩ := Difference.isEmpty_iff.mp
      (views.commit.difference_between.isEmpty_iff.mpr fun _ => Iff.rfl)
    exact congrArg₂ Difference.mk hadded hremoved
  · rw [hbetween.isEmpty_iff, hsnapshot.mem_keys_iff hcycle, eq_comm]
  · exact fun later => ⟨views.compared_snd later, views.foldl_compared later⟩

end TagViews

end TagInventory
