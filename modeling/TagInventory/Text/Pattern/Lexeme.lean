import TagInventory.Text.Blank
import TagInventory.Text.Pattern

/-!
# The smallest parts of the notation of patterns

How a pattern is read depends on `PatternFlags`, which the notation can change.  With the
flag `spaced` a pattern may be laid out: white space and comments, from a `#` to the end of
the line, are skipped nearly everywhere.

This module reads what is below the level of patterns and sets: numbers and escapes.
-/

namespace TagInventory

/-- How a pattern is read. -/
structure PatternFlags where
  /-- Letters are read in both cases. -/
  caseless : Bool
  /-- Anchors are for the ends of lines. -/
  lines : Bool
  /-- The dot is for line ends too. -/
  spanning : Bool
  /-- Lines may end in a carriage return and a line feed. -/
  returns : Bool
  /-- Classes are of the characters of every script, not only of basic ones. -/
  everyScript : Bool
  spaced : Bool
  /-- Repetitions look for the shortest text first. -/
  shortest : Bool
  deriving DecidableEq, Repr

namespace PatternFlags

def initial : PatternFlags where
  caseless := false
  lines := false
  spanning := false
  returns := false
  everyScript := true
  spaced := false
  shortest := false

def set? (flags : PatternFlags) (value : Bool) : Char → Option PatternFlags
  | 'i' => some { flags with caseless := value }
  | 'm' => some { flags with lines := value }
  | 's' => some { flags with spanning := value }
  | 'R' => some { flags with returns := value }
  | 'u' => some { flags with everyScript := value }
  | 'x' => some { flags with spaced := value }
  | 'U' => some { flags with shortest := value }
  | _ => none

/-- A text from where neither white space nor a comment goes on. -/
def skipLayout (inComment : Bool) : List Char → List Char
  | [] => []
  | c :: rest =>
    if inComment then skipLayout (c != '\n') rest
    else if isBlank c then skipLayout false rest
    else if c = '#' then skipLayout true rest
    else c :: rest

theorem length_skipLayout_le (inComment : Bool) (text : List Char) :
    (skipLayout inComment text).length ≤ text.length := by
  fun_induction skipLayout inComment text <;> simp_all <;> omega

/-- A text without the layout before it. -/
def skip (flags : PatternFlags) (text : List Char) : List Char :=
  if flags.spaced then skipLayout false text else text

theorem length_skip_le (flags : PatternFlags) (text : List Char) :
    (flags.skip text).length ≤ text.length := by
  unfold skip
  split
  · exact length_skipLayout_le false text
  · exact Nat.le_refl _

/-- The characters of a class at the beginning of a text, with layout after each, and the
rest of the text. -/
def run (flags : PatternFlags) (accepts : Char → Bool) (text : List Char) :
    List Char × List Char :=
  match text with
  | [] => ([], [])
  | c :: rest =>
    if accepts c then
      let (more, rest) := flags.run accepts (flags.skip rest)
      (c :: more, rest)
    else ([], c :: rest)
termination_by text.length
decreasing_by
  have := flags.length_skip_le rest
  simp only [List.length_cons]
  omega

/-- The character after a dash, past layout.  A comment counts only up to its first
character. -/
def peek? (flags : PatternFlags) (text : List Char) : Option Char :=
  if flags.spaced then
    match text.dropWhile isBlank with
    | [] => text.head?
    | '#' :: comment => (comment.dropWhile isBlank).head?.orElse fun _ => text.head?
    | c :: _ => some c
  else text.head?

end PatternFlags

/-! ### Numbers -/

/-- The value of a digit of base sixteen. -/
def hexDigit? (c : Char) : Option Nat :=
  if c.isDigit then some (c.toNat - 48)
  else if 'a' ≤ c ∧ c ≤ 'f' then some (c.toNat - 87)
  else if 'A' ≤ c ∧ c ≤ 'F' then some (c.toNat - 55)
  else none

/-- The number of some digits. -/
def numberOf (base : Nat) (digits : List Char) : Nat :=
  digits.foldl (fun value digit => base * value + (hexDigit? digit).getD 0) 0

def charOf? (code : Nat) : Option Char :=
  if h : code.isValidChar then some (.ofNatAux code h) else none

/-- Numbers of copies are smaller than this. -/
def countLimit : Nat := UInt32.size

/-- Reads a number of copies.  White space may stand around it. -/
def PatternFlags.count? (flags : PatternFlags) (text : List Char) :
    Option (Nat × List Char) :=
  let (digits, rest) := flags.run Char.isDigit (text.dropWhile isBlank)
  let count := numberOf 10 digits
  if digits.isEmpty || countLimit ≤ count then none
  else some (count, (flags.run isBlank rest).2)

/-! ### Escapes -/

/-- The classes of basic characters. -/
def basicClass? : String → Option CharSet
  | "alnum" => some (.ofRanges [⟨'0', '9'⟩, ⟨'A', 'Z'⟩, ⟨'a', 'z'⟩])
  | "alpha" => some (.ofRanges [⟨'A', 'Z'⟩, ⟨'a', 'z'⟩])
  | "ascii" => some (.ofRanges [⟨'\x00', '\x7F'⟩])
  | "blank" => some (.ofRanges [⟨'\t', '\t'⟩, ⟨' ', ' '⟩])
  | "cntrl" => some (.ofRanges [⟨'\x00', '\x1F'⟩, ⟨'\x7F', '\x7F'⟩])
  | "digit" => some (.ofRanges [⟨'0', '9'⟩])
  | "graph" => some (.ofRanges [⟨'!', '~'⟩])
  | "lower" => some (.ofRanges [⟨'a', 'z'⟩])
  | "print" => some (.ofRanges [⟨' ', '~'⟩])
  | "punct" => some (.ofRanges [⟨'!', '/'⟩, ⟨':', '@'⟩, ⟨'[', '\x60'⟩, ⟨'\x7b', '~'⟩])
  | "space" => some (.ofRanges [⟨'\t', '\r'⟩, ⟨' ', ' '⟩])
  | "upper" => some (.ofRanges [⟨'A', 'Z'⟩])
  | "word" => some (.ofRanges [⟨'0', '9'⟩, ⟨'A', 'Z'⟩, ⟨'_', '_'⟩, ⟨'a', 'z'⟩])
  | "xdigit" => some (.ofRanges [⟨'0', '9'⟩, ⟨'A', 'F'⟩, ⟨'a', 'f'⟩])
  | _ => none

/-- What an escape stands for. -/
inductive PatternAtom
  | literal (c : Char)
  | one (set : CharSet)
  | at (place : Place)
  deriving DecidableEq, Repr

namespace PatternFlags

/-- The class of a letter.  Classes of every script are not known, and no class of basic
characters has the others in it. -/
def class? (flags : PatternFlags) (name : String) : Option PatternAtom :=
  if flags.everyScript then none
  else (basicClass? name).map .one

def fixedCode? (flags : PatternFlags) : Nat → Nat → List Char → Option (Nat × List Char)
  | 0, code, rest => some (code, rest)
  | count + 1, code, c :: rest =>
    (hexDigit? c).bind fun digit => flags.fixedCode? count (16 * code + digit) (flags.skip rest)
  | _, _, [] => none

/-- Reads the code point of a character: so many digits, or any between braces.  With two
digits only basic characters can be given where those of every script are not read. -/
def codePoint? (flags : PatternFlags) (width : Nat) (text : List Char) :
    Option (PatternAtom × List Char) :=
  match flags.skip text with
  | '\x7b' :: rest =>
    match flags.run (fun c => (hexDigit? c).isSome) (flags.skip rest) with
    | (digits, '\x7d' :: rest) =>
      if digits.isEmpty then none
      else (charOf? (numberOf 16 digits)).map fun c => (.literal c, flags.skip rest)
    | _ => none
  | rest =>
    match flags.fixedCode? width 0 rest with
    | some (code, rest) =>
      if width = 2 ∧ !flags.everyScript ∧ 0x80 ≤ code then none
      else (charOf? code).map fun c => (.literal c, rest)
    | none => none

/-- A place at a word. -/
def wordPlace (flags : PatternFlags) (place : WordPlace) : PatternAtom :=
  .at (.word place flags.everyScript)

def isPlaceName (c : Char) : Bool :=
  c.isAlpha || c == '-'

/-- Reads the rest of a place at a word: nothing, or its name between braces.  Braces that
cannot hold a name are left for a number of copies. -/
def namedWordPlace? (flags : PatternFlags) (text : List Char) :
    Option (PatternAtom × List Char) :=
  match text with
  | '\x7b' :: rest =>
    match flags.run isPlaceName (flags.skip rest) with
    | ([], []) => none
    | ([], _) => some (flags.wordPlace .edge, text)
    | (name, '\x7d' :: rest) =>
      ([("start", .start), ("end", .stop), ("start-half", .startHalf),
        ("end-half", .stopHalf)].lookup (String.ofList name)).map fun place =>
          (flags.wordPlace place, rest)
    | _ => none
  | _ => some (flags.wordPlace .edge, text)

def escape? (flags : PatternFlags) : List Char → Option (PatternAtom × List Char)
  | [] => none
  | c :: rest =>
    let literal (c : Char) := some (PatternAtom.literal c, rest)
    match c with
    | 'x' => flags.codePoint? 2 rest
    | 'u' => flags.codePoint? 4 rest
    | 'U' => flags.codePoint? 8 rest
    | 'd' => (flags.class? "digit").map (·, rest)
    | 's' => (flags.class? "space").map (·, rest)
    | 'w' => (flags.class? "word").map (·, rest)
    | 'a' => literal '\x07'
    | 'f' => literal '\x0C'
    | 't' => literal '\t'
    | 'n' => literal '\n'
    | 'r' => literal '\r'
    | 'v' => literal '\x0B'
    | 'A' => some (.at .start, rest)
    | 'z' => some (.at .stop, rest)
    | 'b' => flags.namedWordPlace? rest
    | 'B' => some (flags.wordPlace .elsewhere, rest)
    | '<' => some (flags.wordPlace .start, rest)
    | '>' => some (flags.wordPlace .stop, rest)
    | c => if c.isAlphanum || 0x80 ≤ c.toNat then none else literal c

end PatternFlags

end TagInventory
