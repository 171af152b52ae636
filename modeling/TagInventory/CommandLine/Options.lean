import TagInventory.Engine.Config

/-!
# The command line

Words are read from left to right.  A word is a long option (`--cycles`, `--cycles=3`), a
cluster of short ones (`-rv`, `-c3`, `-c=3`) or the value that the option before it waits
for; there are no other words.  Help and version end the reading where they stand, a word
that does not fit ends it with `Invocation.misuse`.
-/

namespace TagInventory

/-- What the program was asked to do. -/
structure Options where
  device : String
  baud : UInt32
  reset : Bool
  /-- Run this many cycles instead of polling until stopped. -/
  cycles : Option UInt64
  /-- Report how often each tag was seen. -/
  labels : Bool
  /-- Stop polling after this many milliseconds. -/
  duration : Option UInt64
  /-- The pause between two cycles in milliseconds. -/
  pollInterval : UInt64
  verbosity : Nat
  deriving DecidableEq, Repr

inductive Flag
  | device
  | baud
  | reset
  | cycles
  | labels
  | duration
  | pollInterval
  | verbose
  | help
  | version
  deriving DecidableEq, Repr

namespace Flag

def all : List Flag :=
  [.device, .baud, .reset, .cycles, .labels, .duration, .pollInterval, .verbose, .help, .version]

def long : Flag → String
  | .device => "device"
  | .baud => "baud"
  | .reset => "reset"
  | .cycles => "cycles"
  | .labels => "labels"
  | .duration => "duration-ms"
  | .pollInterval => "poll-interval-ms"
  | .verbose => "verbose"
  | .help => "help"
  | .version => "version"

def short? : Flag → Option Char
  | .device => some 'd'
  | .reset => some 'r'
  | .cycles => some 'c'
  | .duration => some 't'
  | .verbose => some 'v'
  | .help => some 'h'
  | .version => some 'V'
  | .baud | .labels | .pollInterval => none

def takesValue : Flag → Bool
  | .device | .baud | .cycles | .duration | .pollInterval => true
  | .reset | .labels | .verbose | .help | .version => false

def ofLong? (name : List Char) : Option Flag :=
  all.find? fun flag => flag.long.toList == name

def ofShort? (letter : Char) : Option Flag :=
  all.find? fun flag => flag.short? == some letter

end Flag

/-- What the words of a command line amount to. -/
inductive Invocation
  | run (options : Options)
  | help
  | version
  | misuse
  deriving DecidableEq, Repr

/-! ### Numbers -/

/-- A number of decimal digits below a bound. -/
def digitsBelow? (bound : Nat) (text : List Char) : Option Nat :=
  if text.isEmpty then none
  else if text.all Char.isDigit then
    let value := text.foldl (fun value digit => 10 * value + (digit.toNat - 48)) 0
    if value < bound then some value else none
  else none

/-- A number below a bound; a plus sign may stand before it. -/
def numberBelow? (bound : Nat) (text : String) : Option Nat :=
  match text.toList with
  | '+' :: digits => digitsBelow? bound digits
  | digits => digitsBelow? bound digits

/-- A number below a bound; a sign may stand before it, a minus only before zero. -/
def signedNumberBelow? (bound : Nat) (text : String) : Option Nat :=
  match text.toList with
  | '-' :: digits => digitsBelow? 1 digits
  | _ => numberBelow? bound text

/-! ### Reading -/

structure Reading where
  options : Options
  /-- Options that may not be given again. -/
  given : List Flag
  /-- The option that waits for its value. -/
  pending : Option Flag
  deriving DecidableEq, Repr

namespace Reading

def initial : Reading where
  options := {
    device := "/dev/ttyUSB0"
    baud := 115200
    reset := false
    cycles := none
    labels := false
    duration := none
    pollInterval := 1
    verbosity := 0 }
  given := []
  pending := none

/-- The options with the value of one changed; `none` if the value does not fit. -/
def assign? (options : Options) (flag : Flag) (value : String) : Option Options :=
  match flag with
  | .device => some { options with device := value }
  | .baud => (signedNumberBelow? UInt32.size value).map fun number =>
      { options with baud := .ofNat number }
  | .cycles => (numberBelow? UInt64.size value).map fun number =>
      { options with cycles := some (.ofNat number) }
  | .duration => (numberBelow? UInt64.size value).map fun number =>
      { options with duration := some (.ofNat number) }
  | .pollInterval => (numberBelow? UInt64.size value).map fun number =>
      { options with pollInterval := .ofNat number }
  | .reset => some { options with reset := true }
  | .labels => some { options with labels := true }
  | .verbose => some { options with verbosity := options.verbosity + 1 }
  | .help | .version => some options

/-- Takes over an option with its value, which is empty for options without one. -/
def take (reading : Reading) (flag : Flag) (value : String) : Except Invocation Reading :=
  match flag with
  | .help => .error .help
  | .version => .error .version
  | _ =>
    if flag ≠ .verbose ∧ flag ∈ reading.given then .error .misuse
    else
      match assign? reading.options flag value with
      | some options => .ok ⟨options, flag :: reading.given, none⟩
      | none => .error .misuse

/-- Reads a cluster of short options. -/
def takeCluster (reading : Reading) : List Char → Except Invocation Reading
  | [] => .ok reading
  | letter :: rest =>
    match Flag.ofShort? letter with
    | none => .error .misuse
    | some flag =>
      if flag.takesValue then
        match rest with
        | [] => .ok { reading with pending := some flag }
        | '=' :: value => reading.take flag (String.ofList value)
        | value => reading.take flag (String.ofList value)
      else
        match reading.take flag "" with
        | .ok next => next.takeCluster rest
        | .error invocation => .error invocation

/-- Reads a long option: its name, and a value after an equals sign. -/
def takeLong (reading : Reading) (text : List Char) : Except Invocation Reading :=
  let name := text.takeWhile (· != '=')
  match Flag.ofLong? name, text.drop name.length with
  | none, _ => .error .misuse
  | some flag, [] =>
    if flag.takesValue then .ok { reading with pending := some flag } else reading.take flag ""
  | some flag, _ :: value =>
    if flag.takesValue then reading.take flag (String.ofList value) else .error .misuse

def takeWord (reading : Reading) (word : String) : Except Invocation Reading :=
  match word.toList, reading.pending with
  | '-' :: '-' :: _, some _ => .error .misuse
  | '-' :: _ :: _, some _ => .error .misuse
  | _, some flag => { reading with pending := none }.take flag word
  | '-' :: '-' :: long, none => reading.takeLong long
  | '-' :: letter :: rest, none => reading.takeCluster (letter :: rest)
  | _, none => .error .misuse

/-- What was read when there are no more words. -/
def finish (reading : Reading) : Invocation :=
  if reading.pending.isSome then .misuse
  else if reading.options.labels ∧ reading.options.cycles.isNone then .misuse
  else .run reading.options

/-- Reads words to the end.  No word may follow the word that ends the options. -/
def readAll (reading : Reading) : List String → Invocation
  | [] => reading.finish
  | word :: rest =>
    if word = "--" then (if rest.isEmpty then reading.finish else .misuse)
    else
      match reading.takeWord word with
      | .ok next => next.readAll rest
      | .error invocation => invocation

end Reading

def Invocation.ofWords (words : List String) : Invocation :=
  Reading.initial.readAll words

/-! ### Texts -/

def versionText : String :=
  "rfid-reader 1.0.1\n"

def helpLines : List String := [
  "Poll a UHF RFID reader and log tag changes",
  "",
  "Usage: rfid-reader [OPTIONS]",
  "",
  "Options:",
  "  -d, --device <DEVICE>",
  "          Serial device [default: /dev/ttyUSB0]",
  "      --baud <BAUD>",
  "          Baud rate [default: 115200]",
  "  -r, --reset",
  "          Reset the reader before polling",
  "  -c, --cycles <CYCLES>",
  "          Run this many poll cycles and report the contents instead of polling until stopped",
  "      --labels",
  "          With --cycles, report per-tag occurrence counts",
  "  -t, --duration-ms <DURATION_MS>",
  "          Stop continuous polling after this many milliseconds (default: when stdin closes)",
  "      --poll-interval-ms <POLL_INTERVAL_MS>",
  "          Pause between poll cycles (milliseconds) [default: 1]",
  "  -v, --verbose...",
  "          More logging (-v debug, -vv trace)",
  "  -h, --help",
  "          Print help",
  "  -V, --version",
  "          Print version"]

def helpText : String :=
  "\n".intercalate helpLines ++ "\n"

end TagInventory
