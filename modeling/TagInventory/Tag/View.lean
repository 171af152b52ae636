import TagInventory.Tag

/-!
# Views of tags

A `View` is a set of tags by key, with the observation that was kept for each.  Its
entries are strictly ascending by key, so that a view never holds a tag twice and every
list taken from it is in order.
-/

namespace TagInventory

/-- The entry of a key replaces an older one of the same key, or takes its place in the
order. -/
def insertEntry (key : String) (tag : TagRead) :
    List (String × TagRead) → List (String × TagRead)
  | [] => [(key, tag)]
  | (other, kept) :: rest =>
    if key < other then (key, tag) :: (other, kept) :: rest
    else if key = other then (key, tag) :: rest
    else (other, kept) :: insertEntry key tag rest

/-- Entries ascend strictly by key. -/
def Ascending (entries : List (String × TagRead)) : Prop :=
  entries.Pairwise fun first second => first.1 < second.1

theorem key_mem_insertEntry {key other : String} {tag : TagRead}
    {entries : List (String × TagRead)} :
    other ∈ (insertEntry key tag entries).map Prod.fst ↔
      other = key ∨ other ∈ entries.map Prod.fst := by
  induction entries with
  | nil => simp [insertEntry]
  | cons entry rest ih =>
    obtain ⟨head, kept⟩ := entry
    unfold insertEntry
    split
    · simp
    · split
      · rename_i heq
        subst heq
        simp
      · simp only [List.map_cons, List.mem_cons, ih]
        constructor
        · rintro (h | h | h)
          · exact .inr (.inl h)
          · exact .inl h
          · exact .inr (.inr h)
        · rintro (h | h | h)
          · exact .inr (.inl h)
          · exact .inl h
          · exact .inr (.inr h)

/-- Inserting keeps the order. -/
theorem ascending_insertEntry {key : String} {tag : TagRead}
    {entries : List (String × TagRead)} (h : Ascending entries) :
    Ascending (insertEntry key tag entries) := by
  induction entries with
  | nil => simp [insertEntry, Ascending]
  | cons entry rest ih =>
    obtain ⟨head, kept⟩ := entry
    obtain ⟨hhead, hrest⟩ := List.pairwise_cons.mp h
    unfold insertEntry
    split
    · rename_i hlt
      refine List.pairwise_cons.mpr ⟨?_, h⟩
      intro other hother
      cases List.mem_cons.mp hother with
      | inl heq => subst heq; exact hlt
      | inr hmem => exact String.lt_trans hlt (hhead other hmem)
    · rename_i hnlt
      split
      · rename_i heq
        subst heq
        exact List.pairwise_cons.mpr ⟨hhead, hrest⟩
      · rename_i hne
        refine List.pairwise_cons.mpr ⟨?_, ih hrest⟩
        intro other hother
        have hkey : other.1 ∈ (insertEntry key tag rest).map Prod.fst :=
          List.mem_map_of_mem hother
        cases key_mem_insertEntry.mp hkey with
        | inl heq =>
          rw [heq]
          have hle : head ≤ key := String.not_lt.mp hnlt
          by_cases hlt : head < key
          · exact hlt
          · exact absurd (String.le_antisymm (String.not_lt.mp hlt) hle) hne
        | inr hmem =>
          obtain ⟨found, hfound, hfst⟩ := List.mem_map.mp hmem
          rw [← hfst]
          exact hhead found hfound

theorem lookup_insertEntry_self (key : String) (tag : TagRead)
    (entries : List (String × TagRead)) :
    (insertEntry key tag entries).lookup key = some tag := by
  induction entries with
  | nil => simp [insertEntry]
  | cons entry rest ih =>
    obtain ⟨head, kept⟩ := entry
    unfold insertEntry
    split
    · simp
    · split
      · simp
      · rename_i hne
        have hbeq : (key == head) = false := beq_false_of_ne hne
        simp [List.lookup_cons, hbeq, ih]

theorem lookup_insertEntry_of_ne {key other : String} (h : other ≠ key) (tag : TagRead)
    (entries : List (String × TagRead)) :
    (insertEntry key tag entries).lookup other = entries.lookup other := by
  have hbeq : (other == key) = false := beq_false_of_ne h
  induction entries with
  | nil => simp [insertEntry, List.lookup_cons, hbeq]
  | cons entry rest ih =>
    obtain ⟨head, kept⟩ := entry
    unfold insertEntry
    split
    · simp [List.lookup_cons, hbeq]
    · split
      · rename_i heq
        subst heq
        simp [List.lookup_cons, hbeq]
      · simp [List.lookup_cons, ih]

/-- Tags by key. -/
structure View where
  entries : List (String × TagRead)
  ascending : Ascending entries
  deriving DecidableEq

namespace View

def empty : View :=
  ⟨[], List.Pairwise.nil⟩

/-- The view with a tag added, or with a newer observation of it. -/
def insert (view : View) (key : String) (tag : TagRead) : View :=
  ⟨insertEntry key tag view.entries, ascending_insertEntry view.ascending⟩

/-- The observation that is kept for a key. -/
def find? (view : View) (key : String) : Option TagRead :=
  view.entries.lookup key

def keys (view : View) : List String :=
  view.entries.map Prod.fst

def size (view : View) : Nat :=
  view.entries.length

def contains (view : View) (key : String) : Bool :=
  view.keys.contains key

/-- The view with all tags of a newer one added. -/
def merge (view newer : View) : View :=
  newer.entries.foldl (fun merged entry => merged.insert entry.1 entry.2) view

/-- The tags with how often each was seen. -/
def counts (view : View) : Counts :=
  view.entries.map fun entry => (entry.1, entry.2.seen)

@[simp] theorem keys_empty : empty.keys = [] := rfl

@[simp] theorem size_empty : empty.size = 0 := rfl

/-- Inserting adds the key and nothing else. -/
@[simp] theorem mem_keys_insert {view : View} {key other : String} {tag : TagRead} :
    other ∈ (view.insert key tag).keys ↔ other = key ∨ other ∈ view.keys :=
  key_mem_insertEntry

@[simp] theorem find?_insert_self (view : View) (key : String) (tag : TagRead) :
    (view.insert key tag).find? key = some tag :=
  lookup_insertEntry_self key tag view.entries

theorem find?_insert_of_ne (view : View) {key other : String} (tag : TagRead)
    (h : other ≠ key) : (view.insert key tag).find? other = view.find? other :=
  lookup_insertEntry_of_ne h tag view.entries

/-- Merging adds the keys of the newer view. -/
@[simp] theorem mem_keys_merge {view newer : View} {key : String} :
    key ∈ (view.merge newer).keys ↔ key ∈ view.keys ∨ key ∈ newer.keys := by
  have keys_foldl (entries : List (String × TagRead)) (merged : View) :
      key ∈ (entries.foldl (fun merged entry => merged.insert entry.1 entry.2) merged).keys ↔
        key ∈ merged.keys ∨ key ∈ entries.map Prod.fst := by
    induction entries generalizing merged with
    | nil => simp
    | cons entry rest ih =>
      rw [List.foldl_cons, ih, mem_keys_insert, List.map_cons, List.mem_cons]
      constructor
      · rintro ((h | h) | h)
        · exact .inr (.inl h)
        · exact .inl h
        · exact .inr (.inr h)
      · rintro (h | h | h)
        · exact .inl (.inr h)
        · exact .inl (.inl h)
        · exact .inr h
  exact keys_foldl newer.entries view

theorem pairwise_keys (view : View) : view.keys.Pairwise (· < ·) :=
  List.pairwise_map.mpr view.ascending

theorem length_keys (view : View) : view.keys.length = view.size :=
  List.length_map ..

@[simp] theorem contains_iff {view : View} {key : String} :
    view.contains key = true ↔ key ∈ view.keys := by
  simp [contains]

end View

end TagInventory
