import TagInventory.Text.Pattern

/-!
# Simplified patterns

The same texts can be given by many patterns.  The operations of this module make patterns
from their parts in a form that takes less to search for:

* rows and choices are flat: they lean to the right, and no part of them is itself one; rows
  have no empty parts and no two given texts side by side
* a choice of single characters, or of sets, is a set
* what all alternatives begin with is read before the choice
-/

namespace TagInventory

namespace Pattern

/-- The parts of a row; every other pattern is a row of one. -/
def items : Pattern → List Pattern
  | empty => []
  | follow first second => first :: second.items
  | part => [part]

/-- The alternatives of a choice; every other pattern is a choice of one. -/
def alternatives : Pattern → List Pattern
  | either first second => first :: second.alternatives
  | part => [part]

def ofItems : List Pattern → Pattern
  | [] => empty
  | [item] => item
  | item :: items => follow item (ofItems items)

def ofAlternatives : List Pattern → Pattern
  | [] => nothing
  | [part] => part
  | part :: parts => either part (ofAlternatives parts)

/-- A character of a set, which is given itself if there is just one. -/
def ofSet (set : CharSet) (everyScript : Bool) : Pattern :=
  match set.single? with
  | some c => literal [c]
  | none => if set = .empty then nothing else one set everyScript

/-- Parts of a row, given texts that stand side by side as one. -/
def joinLiterals : List Pattern → List Pattern
  | [] => []
  | literal text :: items =>
    match joinLiterals items with
    | literal more :: items => literal (text ++ more) :: items
    | items => literal text :: items
  | item :: items => item :: joinLiterals items

def sequence (parts : List Pattern) : Pattern :=
  ofItems (joinLiterals (parts.flatMap items))

def character? : Pattern → Option Char
  | literal [c] => some c
  | _ => none

def set? : Pattern → Option CharSet
  | one set _ => some set
  | _ => none

/-- The set of some alternatives, if they are all characters or all sets. -/
def commonSet? (parts : List Pattern) : Option CharSet :=
  match parts.mapM character? with
  | some characters => some (.ofRanges (characters.map fun c => ⟨c, c⟩))
  | none => (parts.mapM set?).map fun sets => sets.foldl .union .empty

/-- A choice of some alternatives, as a set if that is possible. -/
def setOrChoice (parts : List Pattern) : Pattern :=
  match parts with
  | [part] => part
  | parts =>
    match commonSet? parts with
    | some set => ofSet set true
    | none => ofAlternatives parts

/-- What two lists begin with. -/
def commonStart : List Pattern → List Pattern → List Pattern
  | item :: items, other :: others =>
    if item = other then item :: commonStart items others else []
  | _, _ => []

/-- What all alternatives begin with, if each is a row of more than one part. -/
def commonItems (parts : List Pattern) : List Pattern :=
  match parts.map items with
  | [] => []
  | first :: others =>
    if parts.all fun part => decide (2 ≤ part.items.length) then others.foldl commonStart first
    else []

/-- One of some patterns.  What they all begin with is taken as long as it can be, so that
the rest of it is a choice as it stands. -/
def oneOf (parts : List Pattern) : Pattern :=
  let parts := parts.flatMap alternatives
  match parts, setOrChoice parts with
  | _ :: _ :: _, whole@(either _ _) =>
    match commonItems parts with
    | [] => whole
    | start =>
      let rests := parts.map fun part => ofItems (part.items.drop start.length)
      sequence (start ++ [setOrChoice (rests.flatMap alternatives)])
  | _, whole => whole

/-- Copies of a pattern.  What has no characters need not be there more than once, and no
copy at all is the empty text. -/
def times (part : Pattern) (least : Nat) (most : Option Nat) (shortest : Bool) : Pattern :=
  let (least, most) :=
    if part.isOnlyEmpty then (min least 1, some ((most.map (min 1)).getD 1)) else (least, most)
  if least = 0 ∧ most = some 0 then empty
  else if least = 1 ∧ most = some 1 then part
  else repeated part least most shortest

/-- What two alternatives begin with is read once, and single characters are a set. -/
example :
    let letters := repeated (one (.ofRanges [⟨'a', 'z'⟩]) true) 0 none false
    oneOf [sequence [letters, literal ['1']], sequence [letters, literal ['2']]] =
      follow letters (one (.ofRanges [⟨'1', '2'⟩]) true) := by
  decide +kernel

end Pattern

end TagInventory
