import TagInventory.Proofs.Tag.History

/-!
# The order of tags

Tags are told apart by the bytes of their EPC, and views keep them by its text.  The text of an
EPC has two digits for each byte, high half first, and digits come before upper-case letters; so
texts compare as the bytes do (`hexText_lt_iff`), and a prefix comes first in both orders.

In every history a view keeps each tag under its own key (`View.Keyed`).  It follows that looking
a key up is looking for the tag (`View.Keyed.find?_eq_some_iff`), and that the keys of a view, and
what is selected from them, are in the order of the EPCs (`InEpcOrder`).
-/

namespace TagInventory

/-! ## Texts and bytes -/

theorem upperDigit_lt_iff {first second : Nat} (hfirst : first < 16) (hsecond : second < 16) :
    upperDigit first < upperDigit second ↔ first < second := by
  have hall : ∀ i j : Fin 16, upperDigit i.val < upperDigit j.val ↔ i.val < j.val := by decide
  exact hall ⟨first, hfirst⟩ ⟨second, hsecond⟩

theorem upperDigit_eq_iff {first second : Nat} (hfirst : first < 16) (hsecond : second < 16) :
    upperDigit first = upperDigit second ↔ first = second :=
  ⟨upperDigit_inj hfirst hsecond, congrArg upperDigit⟩

/-- The first byte in which two lists differ decides, by its high digit or by its low one; the
end of a list comes before every byte. -/
theorem hexDigits_lt_iff {first second : List UInt8} :
    hexDigits first < hexDigits second ↔ first < second := by
  induction first generalizing second with
  | nil =>
      cases second with
      | nil => simp
      | cons other second => simp [upperPair]
  | cons byte first ih =>
      cases second with
      | nil => simp [upperPair]
      | cons other second =>
          -- two digits of each side are compared, and they are the halves of the bytes
          have hbyte := byte.toNat_lt
          have hother := other.toNat_lt
          rw [hexDigits_cons, hexDigits_cons, upperPair, upperPair, List.cons_append,
            List.cons_append, List.cons_append, List.cons_append, List.nil_append,
            List.nil_append, List.cons_lt_cons_iff, List.cons_lt_cons_iff, ih,
            upperDigit_lt_iff (by omega) (by omega), upperDigit_eq_iff (by omega) (by omega),
            upperDigit_lt_iff (by omega) (by omega), upperDigit_eq_iff (by omega) (by omega),
            List.cons_lt_cons_iff, UInt8.lt_iff_toNat_lt, ← UInt8.toNat_inj]
          by_cases hrest : first < second
          · simp only [hrest, and_true]
            omega
          · simp only [hrest, and_false, or_false]
            omega

/-- Texts compare as the bytes that they stand for. -/
theorem hexText_lt_iff {first second : List UInt8} :
    hexText first < hexText second ↔ first < second := by
  rw [String.lt_iff, hexText, hexText, String.toList_ofList, String.toList_ofList,
    hexDigits_lt_iff]

theorem hexText_eq_iff {first second : List UInt8} :
    hexText first = hexText second ↔ first = second :=
  ⟨hexText_inj, congrArg hexText⟩

/-- The empty EPC, a prefix, a zero that is padded, and a letter behind a digit. -/
example : [[], [0x0A], [0x0A, 0x00], [0x10], [0x9F], [0xA0]].map hexText =
    ["", "0A", "0A00", "10", "9F", "A0"] := by decide

/-- Two observations are of one tag exactly when they have the same key. -/
theorem TagRead.sameTag_iff_key {first second : TagRead} :
    first.sameTag second = true ↔ first.key = second.key := by
  rw [sameTag, beq_iff_eq, key, key, hexText_eq_iff]

/-! ## Lists in the order of the EPCs -/

/-- Texts of different EPCs, in ascending order of their bytes. -/
def InEpcOrder (texts : List String) : Prop :=
  ∃ epcs : List (List UInt8), epcs.Pairwise (· < ·) ∧ texts = epcs.map hexText

/-- What is selected from a list in order is in order. -/
theorem InEpcOrder.filter {texts : List String} (h : InEpcOrder texts) (keep : String → Bool) :
    InEpcOrder (texts.filter keep) := by
  obtain ⟨epcs, hascending, rfl⟩ := h
  exact ⟨epcs.filter (keep ∘ hexText), hascending.filter _, List.filter_map ..⟩

/-! ## Views that keep each tag under its own key -/

theorem mem_insertEntry {key : String} {tag : TagRead} {entries : List (String × TagRead)}
    {entry : String × TagRead} (h : entry ∈ insertEntry key tag entries) :
    entry = (key, tag) ∨ entry ∈ entries := by
  induction entries with
  | nil => exact .inl (List.mem_singleton.mp h)
  | cons head rest ih =>
      obtain ⟨first, kept⟩ := head
      unfold insertEntry at h
      split at h
      · exact List.mem_cons.mp h
      · split at h
        · exact (List.mem_cons.mp h).imp_right (List.mem_cons_of_mem _)
        · rcases List.mem_cons.mp h with rfl | hrest
          · exact .inr (List.mem_cons_self ..)
          · exact (ih hrest).imp_right (List.mem_cons_of_mem _)

namespace View

/-- The observations that a view keeps, in the order of their keys. -/
def tags (view : View) : List TagRead :=
  view.entries.map Prod.snd

/-- Every tag of a view stands under its own key. -/
def Keyed (view : View) : Prop :=
  ∀ entry ∈ view.entries, entry.1 = entry.2.key

theorem keyed_empty : empty.Keyed :=
  fun _ h => absurd h List.not_mem_nil

theorem find?_eq_some_iff_mem {view : View} {key : String} {tag : TagRead} :
    view.find? key = some tag ↔ (key, tag) ∈ view.entries := by
  constructor
  · intro hfind
    obtain ⟨before, behind, hsplit, -⟩ := List.lookup_eq_some_iff.mp hfind
    rw [hsplit]
    simp
  · exact lookup_of_mem view.ascending

namespace Keyed

variable {view newer : View}

theorem insert (h : view.Keyed) {key : String} {tag : TagRead} (hkey : key = tag.key) :
    (view.insert key tag).Keyed := by
  intro entry hentry
  rcases mem_insertEntry hentry with rfl | hmem
  · exact hkey
  · exact h entry hmem

theorem merge (h : view.Keyed) (hnewer : newer.Keyed) : (view.merge newer).Keyed := by
  refine List.foldlRecOn newer.entries _ h ?_
  intro merged hmerged entry hentry
  exact hmerged.insert (hnewer entry hentry)

theorem keys_eq (h : view.Keyed) : view.keys = view.tags.map TagRead.key := by
  rw [keys, tags, List.map_map]
  exact List.map_congr_left h

theorem mem_tags_iff (h : view.Keyed) {tag : TagRead} :
    tag ∈ view.tags ↔ (tag.key, tag) ∈ view.entries := by
  rw [tags, List.mem_map]
  constructor
  · rintro ⟨entry, hentry, rfl⟩
    rw [← h entry hentry]
    exact hentry
  · exact fun hmem => ⟨_, hmem, rfl⟩

/-- What is found under the key of an observation is what the view keeps of its tag. -/
theorem find?_eq_some_iff (h : view.Keyed) {read kept : TagRead} :
    view.find? read.key = some kept ↔ kept ∈ view.tags ∧ kept.sameTag read = true := by
  rw [find?_eq_some_iff_mem, h.mem_tags_iff, TagRead.sameTag_iff_key]
  constructor
  · intro hmem
    have hkey : read.key = kept.key := h _ hmem
    exact ⟨hkey ▸ hmem, hkey.symm⟩
  · rintro ⟨hmem, hkey⟩
    exact hkey ▸ hmem

theorem pairwise_epcs (h : view.Keyed) : (view.tags.map TagRead.epc).Pairwise (· < ·) := by
  have hkeys := view.pairwise_keys
  rw [h.keys_eq, List.pairwise_map] at hkeys
  rw [List.pairwise_map]
  exact hkeys.imp hexText_lt_iff.mp

theorem inEpcOrder_keys (h : view.Keyed) : InEpcOrder view.keys := by
  refine ⟨_, h.pairwise_epcs, ?_⟩
  rw [h.keys_eq, List.map_map]
  rfl

end Keyed

end View

namespace TagViews

def all (views : TagViews) : List View :=
  [views.snapshot, views.inProgress, views.pending, views.accumulated, views.occurrences]

/-- All five views keep each tag under its own key. -/
def Keyed (views : TagViews) : Prop :=
  ∀ view ∈ views.all, view.Keyed

variable {views : TagViews}

theorem keyed_iff : views.Keyed ↔ views.snapshot.Keyed ∧ views.inProgress.Keyed ∧
    views.pending.Keyed ∧ views.accumulated.Keyed ∧ views.occurrences.Keyed := by
  simp [Keyed, all]

/-- The observation that stands for a tag has the key of the tag. -/
theorem key_observed (h : views.occurrences.Keyed) (read : TagRead) :
    (views.observed read).key = read.key := by
  rw [observed]
  cases hfind : views.occurrences.find? read.key with
  | none => rfl
  | some known => exact TagRead.sameTag_iff_key.mp (h.find?_eq_some_iff.mp hfind).2

theorem Keyed.after (h : views.Keyed) (operation : TagOperation) :
    (views.after operation).Keyed := by
  obtain ⟨hsnapshot, hinProgress, hpending, haccumulated, hoccurrences⟩ := keyed_iff.mp h
  rw [keyed_iff]
  cases operation with
  | beginRun countOccurrences =>
      refine ⟨hsnapshot, hinProgress, hpending, View.keyed_empty, ?_⟩
      cases countOccurrences with
      | true => exact View.keyed_empty
      | false => exact hoccurrences
  | beginCycle => exact ⟨hsnapshot, View.keyed_empty, hpending, haccumulated, hoccurrences⟩
  | beginBufferRead =>
      exact ⟨hsnapshot, hinProgress, View.keyed_empty, haccumulated, hoccurrences⟩
  | record read =>
      -- the observation goes under its key into three views at once
      have hkey : read.key = (views.observed read).key := (key_observed hoccurrences read).symm
      exact ⟨hsnapshot, hinProgress, hpending.insert hkey, haccumulated.insert hkey,
        hoccurrences.insert hkey⟩
  | absorb =>
      exact ⟨hsnapshot, hinProgress.merge hpending, View.keyed_empty, haccumulated, hoccurrences⟩
  | commit => exact ⟨hinProgress, hinProgress, hpending, haccumulated, hoccurrences⟩

/-- Each tag stays under its own key, whatever is done. -/
theorem Keyed.afterAll (h : views.Keyed) (history : List TagOperation) :
    (views.afterAll history).Keyed := by
  induction history generalizing views with
  | nil => exact h
  | cons operation history ih => exact ih (h.after operation)

/-- Recording an observation changes what is found for its own tag. -/
theorem find?_record {view : TagViews → View} (h : view ∈ [pending, accumulated, occurrences])
    (read other : TagRead) :
    (view (views.record read)).find? other.key =
      if other.sameTag read then some (views.observed read)
      else (view views).find? other.key := by
  have hinsert : view (views.record read) =
      (view views).insert read.key (views.observed read) := by
    simp only [List.mem_cons, List.not_mem_nil, or_false] at h
    rcases h with rfl | rfl | rfl <;> rfl
  rw [hinsert]
  by_cases hsame : other.sameTag read = true
  · rw [if_pos hsame, TagRead.sameTag_iff_key.mp hsame, View.find?_insert_self]
  · rw [if_neg hsame, View.find?_insert_of_ne]
    exact fun hkey => hsame (TagRead.sameTag_iff_key.mpr hkey)

theorem keyed_initial : initial.Keyed :=
  keyed_iff.mpr ⟨View.keyed_empty, View.keyed_empty, View.keyed_empty, View.keyed_empty,
    View.keyed_empty⟩

end TagViews

end TagInventory
