import Mathlib.Data.List.Dedup
import Mathlib.Data.List.Sort
import TagInventory.Proofs.Encoding
import TagInventory.Tag.Views

/-!
# What recorded tags do to the views

A buffer read records its tags one after the other.  Views are compared by their keys, and
occurrences by `View.seen`: `recordAll` adds the keys of the recorded tags to three views
and the number of times that a tag was recorded to its occurrences, and leaves the other
views alone.

`sortedSet` is the ascending list of a set of texts.  The keys of a view are such a list
(`View.keys_eq_sortedSet`), so that what the views report is known from sets.
-/

namespace TagInventory

/-! ## Sets of texts in order -/

/-- The texts, each once, ascending. -/
def sortedSet (texts : List String) : List String :=
  texts.dedup.insertionSort (· ≤ ·)

@[simp] theorem mem_sortedSet {texts : List String} {text : String} :
    text ∈ sortedSet texts ↔ text ∈ texts := by
  simp [sortedSet]

/-- There is one ascending list of a set. -/
theorem eq_sortedSet {keys texts : List String} (hkeys : keys.Pairwise (· < ·))
    (h : ∀ key, key ∈ keys ↔ key ∈ texts) : keys = sortedSet texts := by
  have hle : keys.Pairwise (fun first second : String => first ≤ second) := by
    refine hkeys.imp ?_
    intro first second hlt
    rcases String.le_total first second with hle | hle
    · exact hle
    · exact absurd hlt (String.not_lt.mpr hle)
  have hsorted : (sortedSet texts).Pairwise (fun first second : String => first ≤ second) :=
    List.pairwise_insertionSort _ texts.dedup
  have hperm : keys.Perm (sortedSet texts) := by
    refine List.Perm.trans ?_ (List.perm_insertionSort _ texts.dedup).symm
    rw [List.perm_ext_iff_of_nodup hkeys.nodup texts.nodup_dedup]
    intro key
    rw [h, List.mem_dedup]
  exact hperm.eq_of_pairwise (fun _ _ _ _ => String.le_antisymm) hle hsorted

/-! ## Views -/

namespace View

/-- How often the tag of a key was seen; a tag that is not in the view was never seen. -/
def seen (view : View) (key : String) : UInt32 :=
  ((view.find? key).map TagRead.seen).getD 0

@[simp] theorem seen_empty (key : String) : empty.seen key = 0 := rfl

theorem keys_eq_sortedSet {view : View} {texts : List String}
    (h : ∀ key, key ∈ view.keys ↔ key ∈ texts) : view.keys = sortedSet texts :=
  eq_sortedSet view.pairwise_keys h

theorem lookup_of_mem {entries : List (String × TagRead)} (hascending : Ascending entries)
    {key : String} {tag : TagRead} (h : (key, tag) ∈ entries) :
    entries.lookup key = some tag := by
  induction entries with
  | nil => cases h
  | cons head rest ih =>
      obtain ⟨hhead, hrest⟩ := List.pairwise_cons.mp hascending
      rcases List.mem_cons.mp h with rfl | hmem
      · simp
      · obtain ⟨first, kept⟩ := head
        have hne : key ≠ first := by
          rintro rfl
          exact String.lt_irrefl _ (hhead (key, tag) hmem)
        have hbeq : (key == first) = false := by simpa using hne
        simp only [List.lookup_cons, hbeq]
        exact ih hrest hmem

theorem map_fst_counts (view : View) : view.counts.map Prod.fst = view.keys := by
  rw [counts, List.map_map]
  rfl

/-- The counts of a view are its keys with how often each was seen. -/
theorem counts_eq (view : View) :
    view.counts = view.keys.map fun key => (key, view.seen key) := by
  rw [counts, keys, List.map_map]
  refine List.map_congr_left ?_
  intro entry hentry
  show (entry.1, entry.2.seen) = (entry.1, view.seen entry.1)
  rw [seen, find?, lookup_of_mem view.ascending hentry]
  rfl

private theorem length_insertEntry_of_not_mem {key : String} {entries : List (String × TagRead)}
    (h : key ∉ entries.map Prod.fst) (tag : TagRead) :
    (insertEntry key tag entries).length = entries.length + 1 := by
  induction entries with
  | nil => rfl
  | cons entry rest ih =>
      obtain ⟨first, kept⟩ := entry
      obtain ⟨hfirst, hrest⟩ : key ≠ first ∧ key ∉ rest.map Prod.fst := by
        rw [List.map_cons, List.mem_cons, not_or] at h
        exact h
      unfold insertEntry
      split
      · rfl
      · rw [List.length_cons, List.length_cons, ih hrest]

theorem size_insert_of_not_mem {view : View} {key : String} (h : key ∉ view.keys)
    (tag : TagRead) : (view.insert key tag).size = view.size + 1 :=
  length_insertEntry_of_not_mem h tag

theorem seen_insert (view : View) (key other : String) (tag : TagRead) :
    (view.insert key tag).seen other = if other = key then tag.seen else view.seen other := by
  unfold seen
  split
  · rename_i heq
    rw [heq, find?_insert_self]
    rfl
  · rename_i hne
    rw [find?_insert_of_ne view tag hne]

end View

/-! ## Recording -/

namespace TagViews

/-- The views after some tags were recorded. -/
def recordAll (views : TagViews) (reads : List TagRead) : TagViews :=
  reads.foldl record views

theorem seen_observed (views : TagViews) (read : TagRead) :
    (views.observed read).seen = views.occurrences.seen read.key + 1 := by
  rw [observed, View.seen]
  cases views.occurrences.find? read.key with
  | some known => rfl
  | none => rfl

theorem seen_record (views : TagViews) (read : TagRead) (key : String) :
    (views.record read).occurrences.seen key =
      views.occurrences.seen key + if key = read.key then 1 else 0 := by
  show (views.occurrences.insert read.key (views.observed read)).seen key = _
  rw [View.seen_insert]
  split
  · rename_i heq
    rw [heq, seen_observed]
  · rw [UInt32.add_zero]

variable (views : TagViews) (reads : List TagRead)

@[simp] theorem snapshot_recordAll : (views.recordAll reads).snapshot = views.snapshot := by
  induction reads generalizing views with
  | nil => rfl
  | cons read reads ih => exact ih (views.record read)

@[simp] theorem inProgress_recordAll : (views.recordAll reads).inProgress = views.inProgress := by
  induction reads generalizing views with
  | nil => rfl
  | cons read reads ih => exact ih (views.record read)

/-- A view that takes over every recorded tag gets their keys. -/
private theorem mem_keys_recordAll {view : TagViews → View}
    (hview : ∀ views read key, key ∈ (view (record views read)).keys ↔
      key = read.key ∨ key ∈ (view views).keys) (key : String) :
    key ∈ (view (views.recordAll reads)).keys ↔
      key ∈ (view views).keys ∨ key ∈ reads.map TagRead.key := by
  induction reads generalizing views with
  | nil => simp [recordAll]
  | cons read reads ih =>
      rw [recordAll, List.foldl_cons, ← recordAll, ih, hview, List.map_cons, List.mem_cons]
      tauto

theorem mem_pending_recordAll (key : String) :
    key ∈ (views.recordAll reads).pending.keys ↔
      key ∈ views.pending.keys ∨ key ∈ reads.map TagRead.key :=
  mem_keys_recordAll views reads (fun _ _ _ => View.mem_keys_insert) key

theorem mem_accumulated_recordAll (key : String) :
    key ∈ (views.recordAll reads).accumulated.keys ↔
      key ∈ views.accumulated.keys ∨ key ∈ reads.map TagRead.key :=
  mem_keys_recordAll views reads (fun _ _ _ => View.mem_keys_insert) key

theorem mem_occurrences_recordAll (key : String) :
    key ∈ (views.recordAll reads).occurrences.keys ↔
      key ∈ views.occurrences.keys ∨ key ∈ reads.map TagRead.key :=
  mem_keys_recordAll views reads (fun _ _ _ => View.mem_keys_insert) key

/-- Every time that a tag is recorded counts. -/
theorem seen_recordAll (key : String) :
    (views.recordAll reads).occurrences.seen key =
      views.occurrences.seen key + UInt32.ofNat ((reads.map TagRead.key).count key) := by
  induction reads generalizing views with
  | nil => simp [recordAll]
  | cons read reads ih =>
      rw [recordAll, List.foldl_cons, ← recordAll, ih, seen_record, List.map_cons,
        List.count_cons, Nat.add_comm, UInt32.ofNat_add, UInt32.add_assoc]
      congr 2
      by_cases heq : key = read.key
      · simp [heq]
      · simp [heq, Ne.symm heq]

/-! ## One poll -/

/-- What a cycle of one poll does to the views before it is committed: the cycle holds the
tags that were found, and the run has seen each of them once more. -/
structure Polled (before : TagViews) (texts : List String) (after : TagViews) : Prop where
  snapshot_eq : after.snapshot = before.snapshot
  mem_inProgress : ∀ key, key ∈ after.inProgress.keys ↔ key ∈ texts
  mem_accumulated : ∀ key, key ∈ after.accumulated.keys ↔
    key ∈ before.accumulated.keys ∨ key ∈ texts
  mem_occurrences : ∀ key, key ∈ after.occurrences.keys ↔
    key ∈ before.occurrences.keys ∨ key ∈ texts
  seen_eq : ∀ key, after.occurrences.seen key =
    before.occurrences.seen key + if key ∈ texts then 1 else 0

/-- A poll without tags leaves an empty cycle. -/
theorem polled_beginCycle (views : TagViews) : views.Polled [] views.beginCycle where
  snapshot_eq := rfl
  mem_inProgress := by simp [beginCycle]
  mem_accumulated := by simp [beginCycle]
  mem_occurrences := by simp [beginCycle]
  seen_eq := by simp [beginCycle]

/-- The tags of a buffer read become the cycle. -/
theorem polled_absorb (hnodup : (reads.map TagRead.key).Nodup) :
    views.Polled (reads.map TagRead.key)
      (views.beginCycle.beginBufferRead.recordAll reads).absorb where
  snapshot_eq := snapshot_recordAll _ reads
  mem_inProgress := by
    intro key
    rw [absorb, View.mem_keys_merge, inProgress_recordAll, mem_pending_recordAll]
    simp [beginCycle, beginBufferRead]
  mem_accumulated := mem_accumulated_recordAll _ reads
  mem_occurrences := mem_occurrences_recordAll _ reads
  seen_eq := by
    intro key
    refine (seen_recordAll _ reads key).trans ?_
    rw [hnodup.count]
    split
    · rfl
    · rfl

end TagViews

end TagInventory
