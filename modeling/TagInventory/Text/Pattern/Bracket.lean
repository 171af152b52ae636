import TagInventory.Text.Pattern.Lexeme

/-!
# Sets between brackets

In the notation of patterns a set is written between brackets: characters, ranges such as
`a-z`, classes such as `[:alpha:]` and other sets, one after the other.  A caret at the
beginning is for all other characters.  Two such rows may be joined by `&&`, `--` or `~~`,
which keep the common characters, those only in the first row, or those in one row only.

A set is read together with its depth, the number of levels at which it is built.
-/

namespace TagInventory

/-- A set and the number of levels at which it is built. -/
structure LeveledSet where
  set : CharSet
  depth : Nat
  deriving DecidableEq, Repr

/-- How two sets are joined. -/
inductive SetJoin
  | intersection
  | difference
  | symmetricDifference
  deriving DecidableEq, Repr

namespace SetJoin

def ofSigns? : Char → Char → Option SetJoin
  | '&', '&' => some intersection
  | '-', '-' => some difference
  | '~', '~' => some symmetricDifference
  | _, _ => none

/-- Joins two sets. -/
def apply : SetJoin → CharSet → CharSet → CharSet
  | intersection => CharSet.intersection
  | difference => CharSet.difference
  | symmetricDifference => CharSet.symmetricDifference

end SetJoin

/-- A set whose bracket is not closed yet. -/
structure OpenSet where
  inverted : Bool
  /-- What stands before the last join. -/
  joined : Option (LeveledSet × SetJoin)
  /-- The row since then. -/
  row : LeveledSet
  /-- The number of items in that row. -/
  items : Nat
  deriving DecidableEq, Repr

namespace OpenSet

def initial (inverted : Bool) : OpenSet :=
  ⟨inverted, none, ⟨.empty, 0⟩, 0⟩

def push (draft : OpenSet) (item : LeveledSet) : OpenSet :=
  { draft with
    row := ⟨draft.row.set.union item.set, max item.depth draft.row.depth⟩
    items := draft.items + 1 }

/-- Adds a range to the row.  Other than basic characters need every script, and then the
cases of letters are not known. -/
def pushRange? (draft : OpenSet) (flags : PatternFlags) (range : CharRange) :
    Option OpenSet :=
  if (if flags.everyScript then flags.caseless else decide (0x80 ≤ range.last.toNat)) then none
  else
    some { draft with
      row := { draft.row with set := draft.row.set.insert range }
      items := draft.items + 1 }

/-- A set between brackets with letters in both cases, if that is asked for. -/
def folded (flags : PatternFlags) (set : CharSet) : CharSet :=
  if flags.caseless && !flags.everyScript then set.caseless else set

/-- All that was read. -/
def joinedRow (draft : OpenSet) (flags : PatternFlags) : LeveledSet :=
  let row := if draft.items < 2 then draft.row else { draft.row with depth := draft.row.depth + 1 }
  match draft.joined with
  | none => row
  | some (first, join) =>
    ⟨join.apply (folded flags first.set) (folded flags row.set), max first.depth row.depth + 1⟩

def join (draft : OpenSet) (flags : PatternFlags) (join : SetJoin) : OpenSet :=
  { OpenSet.initial draft.inverted with joined := some (draft.joinedRow flags, join) }

/-- Closes the bracket.  All other characters cannot be had where only the basic ones are
read. -/
def close? (draft : OpenSet) (flags : PatternFlags) : Option LeveledSet :=
  let whole := draft.joinedRow flags
  let set := folded flags whole.set
  if draft.inverted then
    if flags.everyScript then some ⟨set.complement, whole.depth + 1⟩ else none
  else some ⟨set, whole.depth + 1⟩

/-- Reads what may only stand at the beginning: a caret, and dashes or a closing bracket as
characters. -/
def begin? (flags : PatternFlags) (text : List Char) : Option (OpenSet × List Char) :=
  let (inverted, text) :=
    match flags.skip text with
    | '^' :: rest => (true, flags.skip rest)
    | text => (false, text)
  let (dashes, text) := flags.run (· == '-') text
  let (first, text) :=
    match dashes, text with
    | [], ']' :: rest => ([']'], flags.skip rest)
    | dashes, text => (dashes, text)
  if text.isEmpty then none
  else
    (first.foldlM (fun (draft : OpenSet) c => draft.pushRange? flags ⟨c, c⟩)
      (initial inverted)).map (·, text)

/-- Reads a class with a name, after its bracket. -/
def basicClass? (text : List Char) : Option (Bool × CharSet × List Char) :=
  match text with
  | ':' :: rest =>
    let (inverted, rest) :=
      match rest with
      | '^' :: rest => (true, rest)
      | rest => (false, rest)
    match rest.dropWhile (· != ':') with
    | ':' :: ']' :: after =>
      (TagInventory.basicClass? (String.ofList (rest.takeWhile (· != ':')))).map
        (inverted, ·, after)
    | _ => none
  | _ => none

/-- Adds a class with a name. -/
def pushClass? (draft : OpenSet) (flags : PatternFlags) (inverted : Bool)
    (set : CharSet) : Option OpenSet :=
  if (if flags.everyScript then flags.caseless else inverted) then none
  else some (draft.push ⟨if inverted then set.complement else folded flags set, 0⟩)

def atom? (flags : PatternFlags) : List Char → Option (PatternAtom × List Char)
  | [] => none
  | '\\' :: rest => flags.escape? rest
  | c :: rest => some (.literal c, rest)

/-- Reads an item: a character, a class or a range. -/
def pushItem? (draft : OpenSet) (flags : PatternFlags) (text : List Char) :
    Option (OpenSet × List Char) := do
  let (first, rest) ← atom? flags text
  let rest := flags.skip rest
  let single : Option OpenSet :=
    match first with
    | .literal c => draft.pushRange? flags ⟨c, c⟩
    | .one set => some (draft.push ⟨set, 0⟩)
    | .at _ => none
  match rest with
  | [] => none
  | '-' :: after =>
    if flags.peek? after = some ']' ∨ flags.peek? after = some '-' then single.map (·, rest)
    else
      match first, ← atom? flags (flags.skip after) with
      | .literal first, (.literal last, rest) =>
        if first ≤ last then (draft.pushRange? flags ⟨first, last⟩).map (·, rest) else none
      | _, _ => none
  | rest => single.map (·, rest)

/-- What two signs that stand where an item may stand join, if they do. -/
def joinAt? : List Char → Option (SetJoin × List Char)
  | first :: second :: rest => (SetJoin.ofSigns? first second).map (·, rest)
  | _ => none

/-- Reads to the end of a set, within the sets around it, the innermost first.  Every item
takes a character, so that the length of the text is enough fuel. -/
def finish? (flags : PatternFlags) :
    Nat → OpenSet → List OpenSet → List Char → Option (LeveledSet × List Char)
  | 0, _, _, _ => none
  | fuel + 1, draft, outer, text =>
    match flags.skip text with
    | ']' :: rest =>
      (draft.close? flags).bind fun whole =>
        match outer with
        | [] => some (whole, rest)
        | around :: outer => finish? flags fuel (around.push whole) outer rest
    | '[' :: rest =>
      match basicClass? rest with
      | some (inverted, set, rest) =>
        (draft.pushClass? flags inverted set).bind fun draft =>
          finish? flags fuel draft outer rest
      | none =>
        (begin? flags rest).bind fun (inner, rest) =>
          finish? flags fuel inner (draft :: outer) rest
    | text =>
      match joinAt? text with
      | some (sign, rest) => finish? flags fuel (draft.join flags sign) outer rest
      | none =>
        (draft.pushItem? flags text).bind fun (draft, rest) =>
          finish? flags fuel draft outer rest

end OpenSet

/-- Reads a set after its opening bracket. -/
def LeveledSet.ofText? (flags : PatternFlags) (text : List Char) :
    Option (LeveledSet × List Char) :=
  (OpenSet.begin? flags text).bind fun (draft, rest) =>
    draft.finish? flags (rest.length + 1) [] rest

end TagInventory
