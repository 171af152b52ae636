import TagInventory.Text.Letter
import TagInventory.Text.Pattern.Bracket
import TagInventory.Text.Pattern.Size

/-!
# The notation of patterns

`Pattern.ofText?` reads a pattern:

* a character stands for itself, `.` for any character of a line, `\` begins an escape and
  `[` a set
* `^` and `$` stand for the ends of the text
* `x*`, `x+`, `x?`, `x{2}`, `x{2,}` and `x{2,5}` repeat what stands before them; a `?` after
  that asks for the shortest text first
* `(…)` groups and `|` separates alternatives; `(?<name>…)` names a group, and `(?flags:…)`
  and `(?flags)` change how the group, or the rest of the group around, is read

What is not of this notation, is nested deeper than `Pattern.depthLimit` or cannot be
searched for is no pattern.
-/

namespace TagInventory

/-- A part of a pattern and the number of levels at which it is built. -/
structure LeveledPattern where
  pattern : Pattern
  depth : Nat
  deriving DecidableEq, Repr

/-- What stands at one place of a row. -/
inductive RowItem
  | part (part : LeveledPattern)
  /-- A change of the flags. -/
  | change
  deriving DecidableEq, Repr

namespace RowItem

def depth : RowItem → Nat
  | .part whole => whole.depth
  | .change => 0

def pattern? : RowItem → Option Pattern
  | .part whole => some whole.pattern
  | .change => none

end RowItem

namespace LeveledPattern

/-- The number of levels of something made of others. -/
def depthOver (depths : List Nat) : Nat :=
  match depths with
  | [] => 0
  | [depth] => depth
  | depths => depths.foldl max 0 + 1

/-- A row of items, the last one given first. -/
def ofRow (items : List RowItem) : LeveledPattern :=
  ⟨.sequence (items.reverse.filterMap RowItem.pattern?), depthOver (items.map RowItem.depth)⟩

/-- One of some patterns, the last one given first. -/
def ofAlternatives (alternatives : List LeveledPattern) : LeveledPattern :=
  ⟨.oneOf (alternatives.reverse.map pattern), depthOver (alternatives.map depth)⟩

end LeveledPattern

/-- A group that is not closed yet. -/
structure OpenGroup where
  /-- The number under which its texts are remembered, if they are. -/
  number : Option Nat
  /-- The flags around it. -/
  flags : PatternFlags
  /-- The alternatives before the last bar, the newest first. -/
  earlier : List LeveledPattern
  /-- What was read since, the newest first. -/
  items : List RowItem
  deriving DecidableEq, Repr

namespace OpenGroup

def initial (number : Option Nat) (flags : PatternFlags) : OpenGroup :=
  ⟨number, flags, [], []⟩

def push (group : OpenGroup) (item : RowItem) : OpenGroup :=
  { group with items := item :: group.items }

def split (group : OpenGroup) : OpenGroup :=
  { group with earlier := .ofRow group.items :: group.earlier, items := [] }

def content (group : OpenGroup) : LeveledPattern :=
  .ofAlternatives (.ofRow group.items :: group.earlier)

def closed (group : OpenGroup) : LeveledPattern :=
  let content := group.content
  match group.number with
  | some number => ⟨.group number content.pattern, content.depth + 1⟩
  | none => ⟨content.pattern, content.depth + 1⟩

/-- The group with its last part repeated, if it has one. -/
def repeat? (group : OpenGroup) (least : Nat) (most : Option Nat) (shortest : Bool) :
    Option OpenGroup :=
  match group.items with
  | .part part :: items =>
    some { group with
      items := .part ⟨part.pattern.times least most shortest, part.depth + 1⟩ :: items }
  | _ => none

end OpenGroup

/-- A pattern that is being read. -/
structure PatternReading where
  flags : PatternFlags
  /-- The group in hand. -/
  group : OpenGroup
  /-- The groups around it, the innermost first. -/
  outer : List OpenGroup
  /-- How many groups are remembered. -/
  groups : Nat
  /-- The names of groups. -/
  names : List (List Char)
  deriving DecidableEq, Repr

namespace PatternReading

def initial : PatternReading :=
  ⟨.initial, .initial none .initial, [], 0, []⟩

def push (reading : PatternReading) (pattern : Pattern) : PatternReading :=
  { reading with group := reading.group.push (.part ⟨pattern, 0⟩) }

def enter (reading : PatternReading) (number : Option Nat) (flags : PatternFlags) :
    PatternReading :=
  { reading with
    flags := flags
    group := .initial number reading.flags
    outer := reading.group :: reading.outer }

/-- Opens a group whose texts are remembered. -/
def enterRemembered (reading : PatternReading) : PatternReading :=
  { reading with groups := reading.groups + 1 }.enter (some reading.groups) reading.flags

/-- Closes a group, if there is one to close. -/
def leave? (reading : PatternReading) : Option PatternReading :=
  match reading.outer with
  | [] => none
  | around :: outer =>
    some { reading with
      flags := reading.group.flags
      group := around.push (.part reading.group.closed)
      outer := outer }

/-! ### Groups -/

/-- Reads flags up to a colon or the end of the group; the result holds that sign.  After a
dash flags are taken back.  None is given twice, and a dash is not the last. -/
def flags? (flags : PatternFlags) (taken : Bool) (seen : List Char) :
    List Char → Option (PatternFlags × Char × List Char)
  | [] => none
  | c :: rest =>
    if c = ':' ∨ c = ')' then
      if seen.head? = some '-' ∨ c = ')' ∧ seen = [] then none else some (flags, c, rest)
    else if c ∈ seen then none
    else if c = '-' then flags? flags true (c :: seen) rest
    else (flags.set? (!taken) c).bind fun flags => flags? flags taken (c :: seen) rest

/-- Whether a character may stand in the name of a group, as its first or later. -/
def isGroupName (first : Bool) (c : Char) : Bool :=
  if first then c == '_' || isLetter c
  else c == '_' || c == '.' || c == '[' || c == ']' || isLetterOrDigit c

/-- Reads the name of a group up to its closing bracket. -/
def groupName? (text : List Char) : Option (List Char × List Char) :=
  match text.takeWhile (· != '>'), text.dropWhile (· != '>') with
  | first :: more, '>' :: rest =>
    if isGroupName true first && more.all (isGroupName false) then some (first :: more, rest)
    else none
  | _, _ => none

/-- Opens a group with a name that no other has. -/
def enterNamed? (reading : PatternReading) (text : List Char) :
    Option (PatternReading × List Char) :=
  (groupName? text).bind fun (name, rest) =>
    if name ∈ reading.names then none
    else some ({ reading with names := name :: reading.names }.enterRemembered, rest)

/-- Reads the beginning of a group, after its parenthesis.  Nothing can be asked of the text
around without reading it. -/
def open? (reading : PatternReading) (text : List Char) :
    Option (PatternReading × List Char) :=
  match reading.flags.skip text with
  | '?' :: '=' :: _ | '?' :: '!' :: _ | '?' :: '<' :: '=' :: _ | '?' :: '<' :: '!' :: _ => none
  | '?' :: 'P' :: '<' :: rest | '?' :: '<' :: rest => reading.enterNamed? rest
  | '?' :: rest =>
    (flags? reading.flags false [] rest).map fun (flags, sign, rest) =>
      if sign = ':' then (reading.enter none flags, rest)
      else ({ reading with flags := flags, group := reading.group.push .change }, rest)
  | text => some (reading.enterRemembered, text)

/-! ### Repetitions -/

/-- Repeats the last part.  A mark right after the sign asks for the other text first. -/
def repeat? (reading : PatternReading) (least : Nat) (most : Option Nat) (text : List Char) :
    Option (PatternReading × List Char) :=
  let (marked, rest) :=
    match text with
    | '?' :: rest => (true, rest)
    | rest => (false, rest)
  (reading.group.repeat? least most (marked != reading.flags.shortest)).map fun group =>
    ({ reading with group := group }, rest)

/-- Reads numbers of copies, after their brace, and repeats the last part. -/
def repeatCounted? (reading : PatternReading) (text : List Char) :
    Option (PatternReading × List Char) :=
  let skip := reading.flags.skip
  (reading.flags.count? (skip text)).bind fun (least, rest) =>
    match rest with
    | '\x7d' :: rest => reading.repeat? least (some least) (skip rest)
    | ',' :: rest =>
      match skip rest with
      | '\x7d' :: rest => reading.repeat? least none (skip rest)
      | rest =>
        match reading.flags.count? rest with
        | some (most, '\x7d' :: rest) =>
          if least ≤ most then reading.repeat? least (some most) (skip rest) else none
        | _ => none
    | _ => none

/-! ### Parts -/

/-- What a character stands for.  The cases of letters of every script are not known. -/
def literal? (flags : PatternFlags) (c : Char) : Option Pattern :=
  if flags.caseless then
    if flags.everyScript then none
    else some (.ofSet (if c.isAlpha then .caseless (.single c) else .single c) false)
  else some (.literal [c])

def atom? (flags : PatternFlags) : PatternAtom → Option Pattern
  | .literal c => literal? flags c
  | .one set => some (.ofSet set flags.everyScript)
  | .at place => some (.at place)

/-- What the dot stands for.  Basic characters alone are not all characters of a line. -/
def dot? (flags : PatternFlags) : Option Pattern :=
  if !flags.everyScript then none
  else if flags.spanning then some (.ofSet .all true)
  else
    let ends := .ofRanges (if flags.returns then [⟨'\n', '\n'⟩, ⟨'\r', '\r'⟩] else [⟨'\n', '\n'⟩])
    some (.ofSet (.complement ends) true)

def startPlace (flags : PatternFlags) : Place :=
  if flags.lines then .lineStart flags.returns else .start

def stopPlace (flags : PatternFlags) : Place :=
  if flags.lines then .lineStop flags.returns else .stop

/-- Reads on from a character. -/
def next? (reading : PatternReading) (c : Char) (rest : List Char) :
    Option (PatternReading × List Char) :=
  match c with
  | '(' => reading.open? rest
  | ')' => reading.leave?.map (·, rest)
  | '|' => some ({ reading with group := reading.group.split }, rest)
  | '[' =>
    (LeveledSet.ofText? reading.flags rest).map fun (whole, rest) =>
      let part := RowItem.part ⟨.ofSet whole.set reading.flags.everyScript, whole.depth⟩
      ({ reading with group := reading.group.push part }, rest)
  | '?' => reading.repeat? 0 (some 1) rest
  | '*' => reading.repeat? 0 none rest
  | '+' => reading.repeat? 1 none rest
  | '\x7b' => reading.repeatCounted? rest
  | '\\' =>
    (reading.flags.escape? rest).bind fun (atom, rest) =>
      (atom? reading.flags atom).map fun pattern => (reading.push pattern, rest)
  | '.' => (dot? reading.flags).map fun pattern => (reading.push pattern, rest)
  | '^' => some (reading.push (.at (startPlace reading.flags)), rest)
  | '$' => some (reading.push (.at (stopPlace reading.flags)), rest)
  | c => (literal? reading.flags c).map fun pattern => (reading.push pattern, rest)

/-- Reads to the end.  Every step takes a character, so that the length of the text is
enough fuel. -/
def finish? : Nat → PatternReading → List Char → Option LeveledPattern
  | 0, _, _ => none
  | fuel + 1, reading, text =>
    match reading.flags.skip text with
    | [] => if reading.outer.isEmpty then some reading.group.content else none
    | c :: rest => (reading.next? c rest).bind fun (reading, rest) => finish? fuel reading rest

end PatternReading

namespace Pattern

/-- A pattern is built at so many levels at most. -/
def depthLimit : Nat := 250

def ofText? (text : List Char) : Option Pattern :=
  (PatternReading.initial.finish? (text.length + 1) text).bind fun whole =>
    if whole.depth ≤ depthLimit ∧ whole.pattern.isSupported ∧ whole.pattern.fits then
      some whole.pattern
    else none

end Pattern

end TagInventory
