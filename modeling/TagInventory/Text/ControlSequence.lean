/-!
# Control sequences

A text that is shown as part of a log may hold sequences that steer a terminal: colours,
titles, commands for a device.  `withoutControlSequences` takes them out, and with them
all controls but the white space.

A sequence begins with the escape character and ends with a final character, which depends
on the kind of sequence; cancelling breaks off every one.  A control that is white space is
shown in the middle of a sequence too, and so is what follows it up to the next other
control, where the sequence is taken up again.
-/

namespace TagInventory

/-- Which part of a control sequence was read. -/
inductive SequencePlace
  | outside
  | escape
  /-- The escape character and more that a final character has to follow. -/
  | escapeMore
  /-- The parameters of a sequence that steers the terminal. -/
  | parameters
  /-- The beginning of a sequence for a device. -/
  | deviceOpening
  | deviceParameters
  | deviceMore
  /-- A text that is not shown, up to a string terminator. -/
  | hidden
  /-- A command to the operating system, up to the bell. -/
  | command
  deriving DecidableEq, Repr

namespace SequencePlace

def within (code first last : Nat) : Bool :=
  decide (first ≤ code) && decide (code ≤ last)

/-- Whether one of the units that a character is encoded in is the string terminator. -/
def holdsTerminator (c : Char) : Bool :=
  (String.singleton c).toUTF8.toList.contains 0x9C

/-- What a basic character other than a cancelling one leads to. -/
def afterBasic : SequencePlace → Nat → SequencePlace
  | outside, _ => outside
  | escape, code =>
    if within code 0x20 0x2F then escapeMore
    else if code = 0x50 then deviceOpening
    else if code = 0x58 ∨ code = 0x5E ∨ code = 0x5F then hidden
    else if code = 0x5B then parameters
    else if code = 0x5D then command
    else if within code 0x30 0x7E then outside
    else escape
  | escapeMore, code => if within code 0x30 0x7E then outside else escapeMore
  | parameters, code => if within code 0x40 0x7E then outside else parameters
  | deviceOpening, code =>
    if within code 0x20 0x2F then deviceMore
    else if within code 0x30 0x3F then deviceParameters
    else if within code 0x40 0x7E then hidden
    else deviceOpening
  | deviceParameters, code =>
    if within code 0x20 0x2F then deviceMore
    else if within code 0x3C 0x7E then hidden
    else deviceParameters
  | deviceMore, code => if within code 0x30 0x7E then hidden else deviceMore
  | hidden, _ => hidden
  | command, code => if code = 0x07 then outside else command

def after (place : SequencePlace) (c : Char) : SequencePlace :=
  if c.toNat = 0x18 ∨ c.toNat = 0x1A then outside
  else if c.toNat = 0x1B then escape
  else if c.toNat < 0x80 then place.afterBasic c.toNat
  else if place = hidden ∧ holdsTerminator c then outside
  else place

/-- Whether a control is white space. -/
def isBlankControl (c : Char) : Bool :=
  c = '\t' || c = '\n' || c = '\x0C' || c = '\r'

/-- Whether a character is shown where no sequence is being read. -/
def showsOutside (c : Char) : Bool :=
  isBlankControl c || within c.toNat 0x20 0x7E || decide (0x80 ≤ c.toNat)

def showsIn : SequencePlace → Char → Bool
  | outside, c => showsOutside c
  | escape, c | escapeMore, c | parameters, c => isBlankControl c
  | _, _ => false

/-- What is shown of a text.  While characters are shown, as `showing` says, the place in a
sequence does not count; a character beyond the basic ones ends the sequence. -/
def shown (place : SequencePlace) (showing : Bool) : List Char → List Char
  | [] => []
  | c :: rest =>
    if (if showing then showsOutside c else place.showsIn c) then
      c :: shown (if c.toNat < 0x80 then place else outside) true rest
    else shown (place.after c) false rest

end SequencePlace

/-- A text without its control sequences. -/
def withoutControlSequences (text : List Char) : List Char :=
  SequencePlace.outside.shown false text

/-- A text in a log: the lines after the first are indented. -/
def indented (text : List Char) : List Char :=
  text.flatMap fun c => if c = '\n' then ['\n', ' ', ' ', ' ', ' '] else [c]

/-- The first line of what is shown of a text in a log.  A line end follows the text. -/
def shownLine (text : List Char) : List Char :=
  let line := (withoutControlSequences (indented text)).takeWhile (· != '\n')
  if line.getLast? = some '\r' then line.dropLast else line

end TagInventory
