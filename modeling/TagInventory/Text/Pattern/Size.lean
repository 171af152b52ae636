import TagInventory.Text.Pattern.Form
import TagInventory.Text.UnitRow

/-!
# The size of a pattern

A pattern is searched for by two automata, which read a text unit by unit, forwards and
backwards.  `Pattern.size` is the number of bytes that such an automaton takes: so many for
each state, and more for the ways on from it.  What is larger than `Pattern.sizeLimit` is not
searched for.
-/

namespace TagInventory

/-- The bytes of one state. -/
def stateSize : Nat := 32

/-- The bytes for each way on that takes no unit, where there may be several. -/
def waySize : Nat := 4

/-- The bytes for each range of units with a way on of its own. -/
def unitWaySize : Nat := 8

/-! ### Sets -/

namespace CharSet

/-- Rows by their first ranges, each with what follows it. -/
def byFirstRange : List UnitRow → List (UnitRange × List UnitRow)
  | [] => []
  | [] :: rows => byFirstRange rows
  | (range :: row) :: rows =>
    match byFirstRange rows with
    | [] => [(range, [row])]
    | (next, following) :: others =>
      if next = range then (range, row :: following) :: others
      else (range, [row]) :: (next, following) :: others

/-- All that may be left to read of some rows, before any unit and after each. -/
def remainders : Nat → List UnitRow → List (List UnitRow)
  | 0, _ => []
  | fuel + 1, rows =>
    if rows.all List.isEmpty then []
    else rows :: (byFirstRange rows).flatMap fun way => remainders fuel way.2

/-- A character has four units at most. -/
def unitLimit : Nat := 4

/-- The size of a forward automaton for a set with more than basic characters.  There is one
state for each remainder. -/
def forwardSize (set : CharSet) : Nat :=
  let states := (remainders unitLimit set.unitRows).eraseDups
  states.foldl (fun size rows => size + stateSize + unitWaySize * (byFirstRange rows).length)
    stateSize

/-- The size of a backward automaton for such a set.  Rows share the states for what they
begin with. -/
def backwardSize (set : CharSet) : Nat :=
  let rows := set.unitRows
  let beginnings := rows.flatMap fun row =>
    (List.range row.length).map fun length => row.take (length + 1)
  2 * stateSize + stateSize * beginnings.eraseDups.length + waySize * rows.length

/-- The size of an automaton for one character of a set. -/
def size (backward : Bool) (set : CharSet) : Nat :=
  if set.isBasic then 2 * stateSize + unitWaySize * set.ranges.length
  else if backward then set.backwardSize
  else set.forwardSize

end CharSet

/-! ### Choices of texts -/

/-- The units of a text, in the order in which they are read. -/
def unitsOf (backward : Bool) (text : List Char) : List UInt8 :=
  let units := text.flatMap String.utf8EncodeChar
  if backward then units.reverse else units

/-- The size of an automaton for one of some texts from the state before them on, without the
state at the end.  Of the texts up to one that ends there, those that begin with the same
unit share its way on. -/
def choiceSize : Nat → List (List UInt8) → Nat
  | 0, _ => 0
  | fuel + 1, texts =>
    if texts.all List.isEmpty then 0
    else
      let parts := (texts.splitOnP List.isEmpty).filter (!·.isEmpty)
      let ends := texts.countP List.isEmpty - ((texts.takeWhile List.isEmpty).length - 1)
      stateSize + waySize * (parts.length + ends) +
        (parts.map fun part =>
          let units := (part.filterMap List.head?).eraseDups
          stateSize + (if units.length = 1 then 0 else unitWaySize * units.length) +
            (units.map fun unit =>
              choiceSize fuel ((part.filter (·.head? = some unit)).map List.tail)).sum).sum

/-! ### Patterns -/

namespace Pattern

/-- The text of a pattern that is one. -/
def text? : Pattern → Option (List Char)
  | literal text => some text
  | _ => none

def isChoice : Pattern → Bool
  | either _ _ => true
  | _ => false

/-- The size of an automaton for a pattern.  What are further alternatives of a choice has no
states of its own to begin and to end with. -/
def size (backward : Bool) (further : Bool) : Pattern → Nat
  | empty | «at» _ => stateSize
  | literal text => stateSize * (unitsOf backward text).length
  | one set _ => set.size backward
  | group _ part => part.size backward false + if backward then 0 else 2 * stateSize
  | follow first second => first.size backward false + second.size backward false
  | either first second =>
    match further, (either first second).alternatives.mapM text? with
    | false, some texts =>
      let texts := texts.map (unitsOf backward)
      stateSize + choiceSize ((texts.map List.length).foldl max 0 + 1) texts
    | _, _ =>
      (if further then 0 else 2 * stateSize) + waySize * (if second.isChoice then 1 else 2) +
        first.size backward false + second.size backward true
  | repeated part least most _ =>
    let once := part.size backward false
    let optional := once + stateSize + 2 * waySize
    match least, most with
    | 0, none =>
      if part.leastLength.any (0 < ·) then optional else optional + 2 * stateSize + 2 * waySize
    | least, none => least * once + stateSize + 2 * waySize
    | 0, some 1 => optional + stateSize
    | least, some most =>
      if least = most then least * once
      else
        (if least = 0 then stateSize else least * once) + stateSize + (most - least) * optional

/-- The bytes that an automaton may take. -/
def sizeLimit : Nat := 10 * 1024 * 1024

/-- The size of what skips units before a text is read.  None are skipped where every text is
at one end. -/
def skipSize (backward : Bool) (pattern : Pattern) : Nat :=
  if pattern.isAlwaysAt (if backward then .stop else .start) backward then stateSize
  else 3 * stateSize + unitWaySize + 2 * waySize

/-- The size of a whole automaton.  Forwards the text that was read is remembered. -/
def wholeSize (backward : Bool) (pattern : Pattern) : Nat :=
  pattern.skipSize backward + pattern.size backward false +
    if backward then stateSize else 3 * stateSize

/-- Whether the automata of a pattern are not too large. -/
def fits (pattern : Pattern) : Bool :=
  decide (pattern.wholeSize false ≤ sizeLimit) && decide (pattern.wholeSize true ≤ sizeLimit)

/-- Characters with up to four units, which only the forward automaton reads with few
states. -/
example :
    let character := ofSet (.complement (.single '\n')) true
    character.size false false = 424 ∧ character.size true false = 1000 := by
  decide +kernel

/-- Texts that begin alike share states. -/
example :
    let names := oneOf [literal ['f', 'o', 'o'], literal ['f', 'o', 'x'], literal ['b']]
    names.size false false = 32 + (36 + 48) + (36 + 32) + (36 + 48) := by
  decide +kernel

end Pattern

end TagInventory
