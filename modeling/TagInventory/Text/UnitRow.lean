import TagInventory.Text.CharSet

/-!
# Ranges of characters, unit by unit

In an encoded text every character is a row of one to four units.  `CharRange.unitRows` gives
a range of characters as rows of ranges of units: a row of units is that of a character in the
range just if each of its units is in the range at its place, in one of these rows.
-/

namespace TagInventory

/-- An inclusive range of units. -/
structure UnitRange where
  first : UInt8
  last : UInt8
  deriving DecidableEq, Repr

abbrev UnitRow := List UnitRange

structure CodeRange where
  first : Nat
  last : Nat
  deriving DecidableEq, Repr

namespace CodeRange

/-- The codes of one, two and three units, without those that are no characters, and of
four units. -/
def byUnitCount : List CodeRange :=
  [⟨0, 0x7F⟩, ⟨0x80, 0x7FF⟩, ⟨0x800, 0xD7FF⟩, ⟨0xE000, 0xFFFF⟩, ⟨0x10000, 0x10FFFF⟩]

/-- What two ranges have in common. -/
def overlap? (range other : CodeRange) : Option CodeRange :=
  let first := max range.first other.first
  let last := min range.last other.last
  if first ≤ last then some ⟨first, last⟩ else none

/-- The range without the codes at its ends that do not fill a block of some size, and these.
A range within one block is not cut. -/
def cut (block : Nat) (range : CodeRange) : List CodeRange :=
  if range.first / block = range.last / block then [range]
  else
    let start := (range.first + block - 1) / block * block
    let stop := (range.last + 1) / block * block
    (if range.first < start then [⟨range.first, start - 1⟩] else []) ++
      (if start < stop then [⟨start, stop - 1⟩] else []) ++
      (if stop ≤ range.last then [⟨stop, range.last⟩] else [])

/-- The blocks of characters with all units but the last one, two or three in common. -/
def blocks : List Nat :=
  [0x40, 0x1000, 0x40000]

/-- The range in parts whose first and last units can be any in some ranges.  A character of
one unit needs no cut. -/
def parts (range : CodeRange) : List CodeRange :=
  if range.last < 0x80 then [range]
  else blocks.foldl (fun ranges block => ranges.flatMap (cut block)) [range]

/-- The ranges between the units of the first and the last character. -/
def unitRow (range : CodeRange) : UnitRow :=
  List.zipWith UnitRange.mk (String.utf8EncodeChar (.ofNat range.first))
    (String.utf8EncodeChar (.ofNat range.last))

end CodeRange

/-- The rows of units of the characters in a range, in ascending order. -/
def CharRange.unitRows (range : CharRange) : List UnitRow :=
  let codes : CodeRange := ⟨range.first.toNat, range.last.toNat⟩
  (CodeRange.byUnitCount.filterMap codes.overlap?).flatMap fun codes =>
    codes.parts.map CodeRange.unitRow

/-- The rows of units of the characters in a set, in ascending order. -/
def CharSet.unitRows (set : CharSet) : List UnitRow :=
  set.ranges.flatMap CharRange.unitRows

/-- All characters. -/
example : CharSet.all.unitRows =
    [[⟨0, 0x7F⟩], [⟨0xC2, 0xDF⟩, ⟨0x80, 0xBF⟩],
      [⟨0xE0, 0xE0⟩, ⟨0xA0, 0xBF⟩, ⟨0x80, 0xBF⟩], [⟨0xE1, 0xEC⟩, ⟨0x80, 0xBF⟩, ⟨0x80, 0xBF⟩],
      [⟨0xED, 0xED⟩, ⟨0x80, 0x9F⟩, ⟨0x80, 0xBF⟩], [⟨0xEE, 0xEF⟩, ⟨0x80, 0xBF⟩, ⟨0x80, 0xBF⟩],
      [⟨0xF0, 0xF0⟩, ⟨0x90, 0xBF⟩, ⟨0x80, 0xBF⟩, ⟨0x80, 0xBF⟩],
      [⟨0xF1, 0xF3⟩, ⟨0x80, 0xBF⟩, ⟨0x80, 0xBF⟩, ⟨0x80, 0xBF⟩],
      [⟨0xF4, 0xF4⟩, ⟨0x80, 0x8F⟩, ⟨0x80, 0xBF⟩, ⟨0x80, 0xBF⟩]] := by
  decide +kernel

end TagInventory
