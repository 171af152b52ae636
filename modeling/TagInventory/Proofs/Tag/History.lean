import Mathlib.Data.List.DropRight
import Mathlib.Data.List.Induction
import Mathlib.Data.Set.Card
import TagInventory.Proofs.Tag.Recording

/-!
# What the views report is known from the history

One operation fills three of the five views at once, and the others empty a view or move it
into another one, each on a schedule of its own.  The main statement is that what the views
report is a function of the history of operations alone: which EPCs were recorded since which
operation, and how often.

## Strategy

* `recordedSince`: the EPCs recorded behind the last operation of some kind.
* `Collects`: three of the views take over every recorded tag, and differ only in the
  operations that empty them.  One induction over the history serves them all
  (`Collects.holds`).
* `AtSince`: the other two views take over what another view held at the time of one
  operation, and change again only with operations of a known kind (`atSince_concat`).
* `View.Holds`: views are compared with sets of EPCs, so that their sizes are numbers of
  distinct EPCs (`View.Holds.encard_eq`).
-/

namespace TagInventory

/-! ## Histories -/

namespace TagOperation

/-- The EPC that an operation records. -/
@[simp] def recorded? : TagOperation → Option (List UInt8)
  | record read => some read.epc
  | beginRun _ | beginCycle | beginBufferRead | absorb | commit => none

@[simp] def startsRun : TagOperation → Bool
  | beginRun _ => true
  | beginCycle | beginBufferRead | record _ | absorb | commit => false

/-- The start of a diagnostic run, which counts occurrences anew. -/
@[simp] def restartsCounts : TagOperation → Bool
  | beginRun countOccurrences => countOccurrences
  | beginCycle | beginBufferRead | record _ | absorb | commit => false

/-- What is streamed from here on belongs to another buffer read. -/
@[simp] def endsRead : TagOperation → Bool
  | beginBufferRead | absorb => true
  | beginRun _ | beginCycle | record _ | commit => false

end TagOperation

/-- The EPCs of all recorded tags, in order. -/
def recorded (history : List TagOperation) : List (List UInt8) :=
  history.filterMap TagOperation.recorded?

/-- The EPCs recorded behind the last operation of some kind, in order. -/
def recordedSince (ends : TagOperation → Bool) (history : List TagOperation) :
    List (List UInt8) :=
  recorded (history.rtakeWhile fun operation => !ends operation)

theorem recordedSince_concat (ends : TagOperation → Bool) (history : List TagOperation)
    (operation : TagOperation) :
    recordedSince ends (history ++ [operation]) =
      if ends operation then [] else recordedSince ends history ++ operation.recorded?.toList := by
  rw [recordedSince, List.rtakeWhile_concat]
  cases ends operation with
  | true => rfl
  | false =>
      show recorded (_ ++ [operation]) = _
      rw [recorded, List.filterMap_append, ← recorded, ← recordedSince, if_neg Bool.false_ne_true,
        List.filterMap_eq_flatMap_toList _ [operation], List.flatMap_singleton]

theorem recordedSince_sublist (ends : TagOperation → Bool) (history : List TagOperation) :
    (recordedSince ends history).Sublist (recorded history) :=
  (List.rtakeWhile_suffix _ history).sublist.filterMap _

/-- Something held of the operations before a `mark`, and no `reset` came behind it. -/
def AtSince (mark reset : TagOperation) (property : List TagOperation → Prop)
    (history : List TagOperation) : Prop :=
  ∃ earlier later, history = earlier ++ mark :: later ∧ reset ∉ later ∧ property earlier

/-- The last operation is the mark, or it must not be the reset. -/
theorem atSince_concat {mark reset : TagOperation} {property : List TagOperation → Prop}
    {history : List TagOperation} {operation : TagOperation} :
    AtSince mark reset property (history ++ [operation]) ↔
      operation = mark ∧ property history ∨
        operation ≠ reset ∧ AtSince mark reset property history := by
  constructor
  · rintro ⟨earlier, later, hsplit, hreset, hproperty⟩
    -- either the mark is the last operation, or what follows it ends with the last operation
    cases later using List.reverseRec with
    | nil =>
        obtain ⟨rfl, hlast⟩ := List.append_inj' hsplit rfl
        cases hlast
        exact .inl ⟨rfl, hproperty⟩
    | append_singleton later last =>
        rw [← List.cons_append, ← List.append_assoc] at hsplit
        obtain ⟨hhistory, hlast⟩ := List.append_inj' hsplit rfl
        cases hlast
        refine .inr ⟨?_, earlier, later, hhistory, ?_, hproperty⟩
        · rintro rfl
          exact hreset (by simp)
        · exact fun hmem => hreset (List.mem_append_left _ hmem)
  · rintro (⟨rfl, hproperty⟩ | ⟨hne, earlier, later, rfl, hreset, hproperty⟩)
    · exact ⟨history, [], rfl, List.not_mem_nil, hproperty⟩
    · -- the mark stays where it was
      refine ⟨earlier, later ++ [operation], by simp, ?_, hproperty⟩
      rw [List.mem_append, List.mem_singleton, not_or]
      exact ⟨hreset, hne.symm⟩

theorem not_atSince_nil {mark reset : TagOperation} {property : List TagOperation → Prop} :
    ¬AtSince mark reset property [] := by
  rintro ⟨earlier, later, hsplit, -⟩
  simp at hsplit

/-- The EPCs that a cycle has absorbed: they were streamed for a buffer read that was
absorbed, and no cycle began since. -/
def absorbed (history : List TagOperation) : Set (List UInt8) :=
  {epc | AtSince .absorb .beginCycle (epc ∈ recordedSince TagOperation.endsRead ·) history}

/-- The EPCs that the cycle had absorbed when it was committed last. -/
def committed (history : List TagOperation) : Set (List UInt8) :=
  {epc | AtSince .commit .commit (epc ∈ absorbed ·) history}

theorem mem_absorbed_concat {history : List TagOperation} {operation : TagOperation}
    {epc : List UInt8} :
    epc ∈ absorbed (history ++ [operation]) ↔
      operation = .absorb ∧ epc ∈ recordedSince TagOperation.endsRead history ∨
        operation ≠ .beginCycle ∧ epc ∈ absorbed history :=
  atSince_concat

theorem mem_committed_concat {history : List TagOperation} {operation : TagOperation}
    {epc : List UInt8} :
    epc ∈ committed (history ++ [operation]) ↔
      operation = .commit ∧ epc ∈ absorbed history ∨
        operation ≠ .commit ∧ epc ∈ committed history :=
  atSince_concat

@[simp] theorem absorbed_nil : absorbed [] = ∅ :=
  Set.eq_empty_of_forall_notMem fun _ => not_atSince_nil

@[simp] theorem committed_nil : committed [] = ∅ :=
  Set.eq_empty_of_forall_notMem fun _ => not_atSince_nil

/-! ## Views and sets of EPCs -/

namespace View

/-- The keys of a view are the texts of a set of EPCs. -/
def Holds (view : View) (epcs : Set (List UInt8)) : Prop :=
  ∀ text, text ∈ view.keys ↔ ∃ epc ∈ epcs, hexText epc = text

theorem holds_empty : empty.Holds ∅ := by
  simp [Holds]

/-- The size of a view is the number of its EPCs. -/
theorem Holds.encard_eq {view : View} {epcs : Set (List UInt8)} (h : view.Holds epcs) :
    epcs.encard = view.size := by
  have himage : hexText '' epcs = {text | text ∈ view.keys} := by
    ext text
    exact (h text).symm
  have hinj : Function.Injective hexText := fun _ _ => hexText_inj
  rw [← hinj.encard_image, himage, ← List.coe_toFinset, Set.encard_coe_eq_coe_finsetCard,
    List.toFinset_card_of_nodup view.pairwise_keys.nodup, length_keys]

theorem mem_counts {view : View} {text : String} {number : UInt32} :
    (text, number) ∈ view.counts ↔ text ∈ view.keys ∧ view.seen text = number := by
  rw [counts_eq, List.mem_map]
  constructor
  · rintro ⟨key, hkey, heq⟩
    cases heq
    exact ⟨hkey, rfl⟩
  · rintro ⟨hkey, rfl⟩
    exact ⟨text, hkey, rfl⟩

end View

namespace TagViews

theorem afterAll_concat (views : TagViews) (history : List TagOperation)
    (operation : TagOperation) :
    views.afterAll (history ++ [operation]) = (views.afterAll history).after operation :=
  views.afterAll_append history [operation]

/-! ## Views that collect what is recorded -/

/-- A view takes over every recorded tag, is emptied by some of the other operations, and
does not know the rest of them. -/
structure Collects (view : TagViews → View) (ends : TagOperation → Bool) : Prop where
  keys_initial : (view .initial).keys = []
  mem_keys_after : ∀ views operation text, text ∈ (view (after views operation)).keys ↔
    ends operation = false ∧
      (text ∈ (view views).keys ∨ ∃ epc ∈ operation.recorded?, hexText epc = text)

theorem collects_occurrences : Collects occurrences TagOperation.restartsCounts where
  keys_initial := rfl
  mem_keys_after views operation text := by
    cases operation with
    | beginRun countOccurrences =>
        cases countOccurrences with
        | true => simp [after, beginRun]
        | false => simp [after, beginRun]
    | record read => simp [after, record, TagRead.key, eq_comm, or_comm]
    | _ => simp [after, beginCycle, beginBufferRead, absorb, commit]

theorem collects_accumulated : Collects accumulated TagOperation.startsRun where
  keys_initial := rfl
  mem_keys_after views operation text := by
    cases operation with
    | record read => simp [after, record, TagRead.key, eq_comm, or_comm]
    | _ => simp [after, beginRun, beginCycle, beginBufferRead, absorb, commit]

theorem collects_pending : Collects pending TagOperation.endsRead where
  keys_initial := rfl
  mem_keys_after views operation text := by
    cases operation with
    | record read => simp [after, record, TagRead.key, eq_comm, or_comm]
    | _ => simp [after, beginRun, beginCycle, beginBufferRead, absorb, commit]

/-- Such a view holds what was recorded since it was emptied. -/
theorem Collects.holds {view : TagViews → View} {ends : TagOperation → Bool}
    (h : Collects view ends) (history : List TagOperation) :
    (view (TagViews.initial.afterAll history)).Holds
      {epc | epc ∈ recordedSince ends history} := by
  induction history using List.reverseRec with
  | nil =>
      intro text
      rw [afterAll_nil, h.keys_initial]
      simp [recordedSince, recorded]
  | append_singleton history operation ih =>
      intro text
      rw [afterAll_concat, h.mem_keys_after, ih, recordedSince_concat]
      cases ends operation with
      | true => simp
      | false =>
          simp only [Set.mem_ofPred_eq, Bool.false_eq_true, if_false, List.mem_append,
            Option.mem_toList, Option.mem_def, or_and_right, exists_or, true_and]

theorem seen_after (views : TagViews) (operation : TagOperation) (key : String) :
    (views.after operation).occurrences.seen key =
      if operation.restartsCounts then 0
      else views.occurrences.seen key +
        UInt32.ofNat ((operation.recorded?.toList.map hexText).count key) := by
  cases operation with
  | beginRun countOccurrences =>
      cases countOccurrences with
      | true => rfl
      | false => simp [after, beginRun]
  | record read =>
      rw [after, seen_record]
      by_cases heq : key = read.key
      · simp [heq, TagRead.key]
      · have hne : hexText read.epc ≠ key := Ne.symm heq
        simp [heq, hne]
  | _ => simp [after, beginCycle, beginBufferRead, absorb, commit]

/-- A tag was seen as often as its text was recorded since occurrences were counted anew. -/
theorem seen_afterAll (history : List TagOperation) (key : String) :
    (initial.afterAll history).occurrences.seen key =
      UInt32.ofNat
        (((recordedSince TagOperation.restartsCounts history).map hexText).count key) := by
  induction history using List.reverseRec with
  | nil => rfl
  | append_singleton history operation ih =>
      rw [afterAll_concat, recordedSince_concat, seen_after, ih]
      split
      · rfl
      · rw [List.map_append, List.count_append, UInt32.ofNat_add]

theorem toNat_seen_of_lt {history : List TagOperation} {epc : List UInt8}
    (hlt : (recordedSince TagOperation.restartsCounts history).count epc < UInt32.size) :
    ((initial.afterAll history).occurrences.seen (hexText epc)).toNat =
      (recordedSince TagOperation.restartsCounts history).count epc := by
  have hinj : Function.Injective hexText := fun _ _ => hexText_inj
  rw [seen_afterAll, List.count_map_of_injective _ _ hinj, UInt32.toNat_ofNat']
  exact Nat.mod_eq_of_lt hlt

/-- As long as the number of records fits, no count has wrapped. -/
theorem toNat_seen_hexText {history : List TagOperation}
    (hfew : (recorded history).length < UInt32.size) (epc : List UInt8) :
    ((initial.afterAll history).occurrences.seen (hexText epc)).toNat =
      (recordedSince TagOperation.restartsCounts history).count epc := by
  have hle : (recordedSince TagOperation.restartsCounts history).count epc ≤
      (recorded history).length :=
    List.count_le_length.trans (recordedSince_sublist _ history).length_le
  exact toNat_seen_of_lt (Nat.lt_of_le_of_lt hle hfew)

/-- Occurrences are the EPCs recorded since occurrences were counted anew, each with how often
it was recorded. -/
theorem mem_counts_occurrences {history : List TagOperation}
    (hfew : (recorded history).length < UInt32.size) {text : String} {number : UInt32} :
    (text, number) ∈ (initial.afterAll history).occurrences.counts ↔
      ∃ epc ∈ recordedSince TagOperation.restartsCounts history, hexText epc = text ∧
        (recordedSince TagOperation.restartsCounts history).count epc = number.toNat := by
  rw [View.mem_counts, collects_occurrences.holds history]
  constructor
  · rintro ⟨⟨epc, hepc, rfl⟩, rfl⟩
    exact ⟨epc, hepc, rfl, (toNat_seen_hexText hfew epc).symm⟩
  · rintro ⟨epc, hepc, rfl, hnumber⟩
    refine ⟨⟨epc, hepc, rfl⟩, UInt32.toNat_inj.mp ?_⟩
    rw [toNat_seen_hexText hfew, hnumber]

/-! ## Views that take over another view -/

/-- The cycle in progress holds what it absorbed. -/
theorem holds_inProgress (history : List TagOperation) :
    (initial.afterAll history).inProgress.Holds (absorbed history) := by
  induction history using List.reverseRec with
  | nil =>
      rw [absorbed_nil]
      exact View.holds_empty
  | append_singleton history operation ih =>
      intro text
      rw [afterAll_concat]
      simp only [mem_absorbed_concat]
      cases operation with
      | beginCycle => simp [after, beginCycle]
      | absorb =>
          -- the view of the buffer read in flight is known from what was streamed
          rw [after, absorb, View.mem_keys_merge, ih, collects_pending.holds]
          simp [or_and_right, exists_or, or_comm]
      | _ => exact (ih text).trans (by simp)

/-- The snapshot holds what the cycle held when it was committed. -/
theorem holds_snapshot (history : List TagOperation) :
    (initial.afterAll history).snapshot.Holds (committed history) := by
  induction history using List.reverseRec with
  | nil =>
      rw [committed_nil]
      exact View.holds_empty
  | append_singleton history operation ih =>
      intro text
      rw [afterAll_concat]
      simp only [mem_committed_concat]
      cases operation with
      | commit => exact (holds_inProgress history text).trans (by simp)
      | _ => exact (ih text).trans (by simp)

/-! ## What is reported -/

/-- **The reports are functions of the history.**  Texts come in strictly ascending order,
each of them stands for the bytes of one EPC, whatever else its reads said, and

* occurrences are the EPCs recorded since occurrences were counted anew, each with how often
  it was recorded;
* accumulated tags are the EPCs recorded since a run started;
* the tags received are counted since the last buffer read was begun or absorbed, without
  repetition;
* absorbing counts the EPCs that the cycle has absorbed, without repetition;
* the snapshot is what the cycle had absorbed when it was committed last. -/
theorem reports_of_history {history : List TagOperation}
    (hfew : (recorded history).length < UInt32.size) :
    let views := initial.afterAll history
    (∀ text number, (text, number) ∈ views.occurrences.counts ↔
        ∃ epc ∈ recordedSince TagOperation.restartsCounts history, hexText epc = text ∧
          (recordedSince TagOperation.restartsCounts history).count epc = number.toNat) ∧
      (∀ text, text ∈ views.accumulated.counts.map Prod.fst ↔
        ∃ epc ∈ recordedSince TagOperation.startsRun history, hexText epc = text) ∧
      {epc | epc ∈ recordedSince TagOperation.endsRead history}.encard = views.received ∧
      (∀ read, {epc | epc ∈ recordedSince TagOperation.endsRead
          (history ++ [.record read])}.encard = (views.record read).received) ∧
      (absorbed (history ++ [.absorb])).encard = views.absorb.inProgress.size ∧
      (∀ text, text ∈ views.snapshot.keys ↔ ∃ epc ∈ committed history, hexText epc = text) ∧
      (views.occurrences.counts.map Prod.fst).Pairwise (· < ·) ∧
      (views.accumulated.counts.map Prod.fst).Pairwise (· < ·) ∧
      views.snapshot.keys.Pairwise (· < ·) := by
  intro views
  refine ⟨?_, ?_, ?_, ?_, ?_, ?_, ?_, ?_, ?_⟩
  · exact fun _ _ => mem_counts_occurrences hfew
  · rw [View.map_fst_counts]
    exact collects_accumulated.holds history
  · exact (collects_pending.holds history).encard_eq
  · intro read
    have hall := collects_pending.holds (history ++ [.record read])
    rw [afterAll_concat] at hall
    exact hall.encard_eq
  · have hall := holds_inProgress (history ++ [.absorb])
    rw [afterAll_concat] at hall
    exact hall.encard_eq
  · exact holds_snapshot history
  · rw [View.map_fst_counts]
    exact views.occurrences.pairwise_keys
  · rw [View.map_fst_counts]
    exact views.accumulated.pairwise_keys
  · exact views.snapshot.pairwise_keys

/-- A diagnostic run reads one tag twice and another once, and commits them; a plain run then
reads the second tag, with another signal strength. -/
private def readAgain : List TagOperation :=
  [.beginRun true, .beginCycle, .beginBufferRead, .record { epc := [0x0A] },
    .record { epc := [0x0A, 0xB0] }, .record { epc := [0x0A] }, .absorb, .commit,
    .beginRun false, .beginCycle, .record { epc := [0x0A, 0xB0], rssi := 0x40 }]

theorem reports_of_readAgain :
    let views := initial.afterAll readAgain
    (recorded readAgain).length < UInt32.size ∧
      ("0A", 2) ∈ views.occurrences.counts ∧
      ("0AB0", 2) ∈ views.occurrences.counts ∧
      "0AB0" ∈ views.accumulated.counts.map Prod.fst ∧
      "0A" ∉ views.accumulated.counts.map Prod.fst ∧
      "0A" ∈ views.snapshot.keys := by
  intro views
  have hfew : (recorded readAgain).length < UInt32.size := by decide
  obtain ⟨hoccurrences, haccumulated, -, -, -, hsnapshot, -⟩ := reports_of_history hfew
  refine ⟨hfew, ?_, ?_, ?_, ?_, ?_⟩
  · exact (hoccurrences "0A" 2).mpr ⟨[0x0A], by decide, by decide, by decide⟩
  · exact (hoccurrences "0AB0" 2).mpr ⟨[0x0A, 0xB0], by decide, by decide, by decide⟩
  · exact (haccumulated "0AB0").mpr ⟨[0x0A, 0xB0], by decide, by decide⟩
  · rw [haccumulated]
    decide
  · refine (hsnapshot "0A").mpr ⟨[0x0A], ⟨readAgain.take 7, readAgain.drop 8, ?_, ?_, ?_⟩, ?_⟩
    · decide
    · decide
    · exact ⟨readAgain.take 6, [], by decide, by decide, by decide⟩
    · decide

end TagViews

end TagInventory
