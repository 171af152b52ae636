/-!
# Sets of characters

A set of characters is a list of inclusive ranges in ascending order, of which none begins
right after another.  The operations keep this form, so that sets that were made in different
ways can be compared.
-/

namespace TagInventory

def firstCharacter : Char :=
  '\x00'

def lastCharacter : Char :=
  .ofNat 0x10FFFF

/-- The character after another one.  The codes from `0xD800` to `0xDFFF` are no characters. -/
def following (c : Char) : Char :=
  .ofNat (if c.toNat = 0xD7FF then 0xE000 else c.toNat + 1)

/-- The character before another one. -/
def preceding (c : Char) : Char :=
  .ofNat (if c.toNat = 0xE000 then 0xD7FF else c.toNat - 1)

def earlier (c d : Char) : Char :=
  if c ≤ d then c else d

def later (c d : Char) : Char :=
  if c ≤ d then d else c

structure CharRange where
  first : Char
  last : Char
  deriving DecidableEq, Repr

namespace CharRange

def holds (range : CharRange) (c : Char) : Bool :=
  decide (range.first ≤ c) && decide (c ≤ range.last)

def between (one other : Char) : CharRange :=
  ⟨earlier one other, later one other⟩

/-- Whether a range ends before another one, and does not touch it. -/
def isBefore (range other : CharRange) : Bool :=
  decide (range.last.toNat + 1 < other.first.toNat)

/-- Two ranges that overlap or touch as one. -/
def joined (range other : CharRange) : CharRange :=
  ⟨earlier range.first other.first, later range.last other.last⟩

def overlap? (range other : CharRange) : Option CharRange :=
  let first := later range.first other.first
  let last := earlier range.last other.last
  if first ≤ last then some ⟨first, last⟩ else none

/-- What is left of a range without another one. -/
def without (range removed : CharRange) : List CharRange :=
  (if range.first < removed.first then
    [⟨range.first, earlier range.last (preceding removed.first)⟩] else []) ++
  (if removed.last < range.last then
    [⟨later range.first (following removed.last), range.last⟩] else [])

/-- The basic letters of a range, in the other case. -/
def otherCase (range : CharRange) : List CharRange :=
  ((range.overlap? ⟨'a', 'z'⟩).toList.map fun letters =>
    ⟨letters.first.toUpper, letters.last.toUpper⟩) ++
  ((range.overlap? ⟨'A', 'Z'⟩).toList.map fun letters =>
    ⟨letters.first.toLower, letters.last.toLower⟩)

end CharRange

structure CharSet where
  ranges : List CharRange
  deriving DecidableEq, Repr

namespace CharSet

def holds (set : CharSet) (c : Char) : Bool :=
  set.ranges.any fun range => range.holds c

def empty : CharSet :=
  ⟨[]⟩

def single (c : Char) : CharSet :=
  ⟨[⟨c, c⟩]⟩

def all : CharSet :=
  ⟨[⟨firstCharacter, lastCharacter⟩]⟩

/-- Some ranges and a further one, which is joined with those that it overlaps or touches. -/
def insertInto (range : CharRange) : List CharRange → List CharRange
  | [] => [range]
  | next :: rest =>
    if range.isBefore next then range :: next :: rest
    else if next.isBefore range then next :: insertInto range rest
    else insertInto (range.joined next) rest

def insert (set : CharSet) (range : CharRange) : CharSet :=
  ⟨insertInto range set.ranges⟩

/-- The characters of one set or the other. -/
def union (first second : CharSet) : CharSet :=
  ⟨second.ranges.foldr insertInto first.ranges⟩

/-- The characters in some ranges. -/
def ofRanges (ranges : List CharRange) : CharSet :=
  union empty ⟨ranges⟩

def intersection (first second : CharSet) : CharSet :=
  ⟨first.ranges.flatMap fun range => second.ranges.filterMap range.overlap?⟩

def difference (first second : CharSet) : CharSet :=
  ⟨second.ranges.foldl (fun ranges removed => ranges.flatMap (·.without removed)) first.ranges⟩

/-- The characters that only one of two sets has. -/
def symmetricDifference (first second : CharSet) : CharSet :=
  (first.union second).difference (first.intersection second)

/-- The ranges between some others, from after a character on.  Where two ranges have no
character between them, there is the range of their neighbouring ends. -/
def gapsAfter (last : Char) : List CharRange → List CharRange
  | [] => if last < lastCharacter then [⟨following last, lastCharacter⟩] else []
  | range :: rest =>
    .between (following last) (preceding range.first) :: gapsAfter range.last rest

/-- All other characters, as the ranges between those of the set. -/
def complement : CharSet → CharSet
  | ⟨[]⟩ => all
  | ⟨range :: rest⟩ =>
    ⟨(if firstCharacter < range.first then [⟨firstCharacter, preceding range.first⟩] else []) ++
      gapsAfter range.last rest⟩

/-- The characters of a set and the same basic letters in the other case. -/
def caseless (set : CharSet) : CharSet :=
  set.union ⟨set.ranges.flatMap CharRange.otherCase⟩

/-- The only character of a set, if it has just one. -/
def single? : CharSet → Option Char
  | ⟨[range]⟩ => if range.first = range.last then some range.first else none
  | _ => none

/-- Whether all characters of the set are basic ones. -/
def isBasic (set : CharSet) : Bool :=
  set.ranges.all fun range => decide (range.last.toNat < 0x80)

end CharSet

end TagInventory
