import TagInventory.Text.CharSet

/-!
# Patterns

A pattern stands for a set of texts: a given one, characters of some set, one part after
another, one of two parts, parts that are repeated, and places, which are no characters but
ask for something of the characters on both sides.
-/

namespace TagInventory

/-- Where a place is at a word. -/
inductive WordPlace
  /-- At one of its two ends. -/
  | edge
  /-- Anywhere else. -/
  | elsewhere
  | start
  | stop
  /-- No word goes on from the left. -/
  | startHalf
  /-- No word goes on to the right. -/
  | stopHalf
  deriving DecidableEq, Repr

/-- A place between two characters, or at an end of the text. -/
inductive Place
  | start
  | stop
  /-- The start of a line; a line may end in a carriage return and a line feed. -/
  | lineStart (returns : Bool)
  | lineStop (returns : Bool)
  /-- A place at a word, of basic characters or of every script. -/
  | word (place : WordPlace) (everyScript : Bool)
  deriving DecidableEq, Repr

/-- Whether a character may be part of a word of basic characters. -/
def isWordCharacter (c : Char) : Bool :=
  c.isAlphanum || c == '_'

namespace WordPlace

/-- Whether the place is there, between the sides of which some are part of a word. -/
def holds (place : WordPlace) (before after : Bool) : Bool :=
  match place with
  | edge => before != after
  | elsewhere => before == after
  | start => !before && after
  | stop => before && !after
  | startHalf => !before
  | stopHalf => !after

end WordPlace

namespace Place

/-- Whether the place is there, between two characters, if there are such. -/
def holds (place : Place) (before after : Option Char) : Bool :=
  match place with
  | start => before.isNone
  | stop => after.isNone
  | lineStart false => before.isNone || before == some '\n'
  | lineStart true =>
    before.isNone || before == some '\n' || before == some '\r' && after != some '\n'
  | lineStop false => after.isNone || after == some '\n'
  | lineStop true =>
    after.isNone || after == some '\r' || after == some '\n' && before != some '\r'
  | word place _ => place.holds (before.any isWordCharacter) (after.any isWordCharacter)

/-- Whether the place is between any two units of one character, which are no part of a word
and end no line. -/
def isWithinCharacter : Place → Bool
  | word place _ => place.holds false false
  | _ => false

end Place

/-- A set of texts. -/
inductive Pattern
  | empty
  /-- Only this text, which is not empty. -/
  | literal (text : List Char)
  /-- A character of a set that was given among those of every script, or of basic ones. -/
  | one (set : CharSet) (everyScript : Bool)
  | at (place : Place)
  /-- A part whose texts are remembered, under a number of its own. -/
  | group (number : Nat) (part : Pattern)
  | follow (first second : Pattern)
  | either (first second : Pattern)
  /-- So many copies at least, and so many at most if there is a limit; the shortest or the
  longest text is looked for first. -/
  | repeated (part : Pattern) (least : Nat) (most : Option Nat) (shortest : Bool)
  deriving DecidableEq, Repr

namespace Pattern

def nothing : Pattern :=
  one .empty false

/-- Whether no text of the pattern has a character. -/
def isOnlyEmpty : Pattern → Bool
  | empty | «at» _ => true
  | literal _ | one _ _ => false
  | group _ part | repeated part _ _ _ => part.isOnlyEmpty
  | follow first second | either first second => first.isOnlyEmpty && second.isOnlyEmpty

/-- The number of characters of the shortest text.  It is not known if no text is of one of
the parts. -/
def leastLength : Pattern → Option Nat
  | empty | «at» _ => some 0
  | literal text => some text.length
  | one set _ => if set = .empty then none else some 1
  | group _ part => part.leastLength
  | follow first second =>
    match first.leastLength, second.leastLength with
    | some first, some second => some (first + second)
    | _, _ => none
  | either first second =>
    match first.leastLength, second.leastLength with
    | some first, some second => some (min first second)
    | _, _ => none
  | repeated part least _ _ => part.leastLength.map (least * ·)

/-- Whether a place is at the beginning of every text, or at the end. -/
def isAlwaysAt (asked : Place) (atEnd : Bool) : Pattern → Bool
  | empty | literal _ | one _ _ => false
  | «at» place => place = asked
  | group _ part => part.isAlwaysAt asked atEnd
  | follow first second =>
    if atEnd then
      second.isAlwaysAt asked atEnd || second.isOnlyEmpty && first.isAlwaysAt asked atEnd
    else first.isAlwaysAt asked atEnd || first.isOnlyEmpty && second.isAlwaysAt asked atEnd
  | either first second => first.isAlwaysAt asked atEnd && second.isAlwaysAt asked atEnd
  | repeated part least _ _ => decide (0 < least) && part.isAlwaysAt asked atEnd

/-- Whether the empty text is of the pattern between two units of one character. -/
def isWithinCharacter : Pattern → Bool
  | empty => true
  | literal _ | one _ _ => false
  | «at» place => place.isWithinCharacter
  | group _ part => part.isWithinCharacter
  | follow first second => first.isWithinCharacter && second.isWithinCharacter
  | either first second => first.isWithinCharacter || second.isWithinCharacter
  | repeated part least _ _ => least == 0 || part.isWithinCharacter

/-- Whether the words of every script do not matter, which are not known. -/
def isSupported : Pattern → Bool
  | empty | literal _ | one _ _ => true
  | «at» (.word _ everyScript) => !everyScript
  | «at» _ => true
  | group _ part | repeated part _ _ _ => part.isSupported
  | follow first second | either first second => first.isSupported && second.isSupported

end Pattern

end TagInventory
