import TagInventory.Notice
import TagInventory.Text.Blank
import TagInventory.Text.ControlSequence
import TagInventory.Text.Pattern.Automaton
import TagInventory.Text.Pattern.Notation

/-!
# Filtering the log

A filter is a list of rules `name=level`, separated by commas, and after a slash a pattern
that has to occur in the text of a notice.  The rule with the longest name that the origin
of a notice begins with decides; a rule without a name is for every origin, a name without a
level lets everything through.  Rules and patterns that cannot be read are left out.
-/

namespace TagInventory

/-- The parts of a text between separators. -/
def pieces (separator : Char) : List Char → List (List Char)
  | [] => [[]]
  | c :: rest =>
    if c = separator then [] :: pieces separator rest
    else
      match pieces separator rest with
      | piece :: others => (c :: piece) :: others
      | [] => [[c]]

/-- The highest verbosity that a level lets through. -/
def levelOf? (text : List Char) : Option Nat :=
  [("off", 0), ("error", 1), ("warn", 2), ("info", 3), ("debug", 4), ("trace", 5)].lookup
    (String.ofList (text.map Char.toLower))

/-- What notices from some origins may be. -/
structure FilterRule where
  /-- How the names of the origins begin; none is for all. -/
  name : Option (List Char)
  verbosity : Nat
  deriving DecidableEq, Repr

namespace FilterRule

/-- The level that lets everything through. -/
def everything : Nat := 5

def ofText? (text : List Char) : Option FilterRule :=
  match pieces '=' text with
  | [single] =>
    match levelOf? single with
    | some level => some ⟨none, level⟩
    | none => some ⟨some single, everything⟩
  | [name, level] =>
    if trimmed level = [] then some ⟨some name, everything⟩
    else (levelOf? (trimmed level)).map fun verbosity => ⟨some name, verbosity⟩
  | _ => none

/-- The number of characters of the name. -/
def length (rule : FilterRule) : Nat :=
  match rule.name with
  | some name => name.length
  | none => 0

def covers (rule : FilterRule) (origin : Origin) : Bool :=
  match rule.name with
  | some name => name.isPrefixOf origin.name.toList
  | none => true

end FilterRule

structure LogFilter where
  /-- The rules, by the length of their names. -/
  rules : List FilterRule
  /-- What has to occur in a text; none is for all texts. -/
  pattern : Option Pattern
  deriving DecidableEq, Repr

namespace LogFilter

/-- Adds a rule, in place of an older one with the same name. -/
def addRule (rules : List FilterRule) (rule : FilterRule) : List FilterRule :=
  if rules.any fun other => other.name == rule.name then
    rules.map fun other => if other.name == rule.name then rule else other
  else rules ++ [rule]

/-- A filter of some rules; with none of them only errors are shown. -/
def ofRules (rules : List FilterRule) (pattern : Option Pattern) : LogFilter :=
  let distinct := rules.foldl addRule []
  let effective := if distinct.isEmpty then [⟨none, Severity.error.verbosity⟩] else distinct
  ⟨effective.mergeSort fun first second => first.length ≤ second.length, pattern⟩

/-- The rules that can be read, in order. -/
def rulesOf (text : List Char) : List FilterRule :=
  ((pieces ',' text).map trimmed).filterMap fun rule =>
    if rule.isEmpty then none else FilterRule.ofText? rule

/-- Reads a filter.  With more than one slash nothing can be read. -/
def ofText (text : String) : LogFilter :=
  match pieces '/' text.toList with
  | [rules] => ofRules (rulesOf rules) none
  | [rules, pattern] => ofRules (rulesOf rules) (Pattern.ofText? pattern)
  | _ => ofRules [] none

/-- The filter for a number of requests to say more. -/
def ofVerbosity : Nat → LogFilter
  | 0 => ofRules [⟨none, Severity.info.verbosity⟩] none
  | 1 => ofRules [⟨none, Severity.debug.verbosity⟩] none
  | _ => ofRules [⟨none, Severity.trace.verbosity⟩] none

def admitsText (filter : LogFilter) (text : String) : Bool :=
  match filter.pattern with
  | some pattern => pattern.occursIn text.toList
  | none => true

def admits (filter : LogFilter) (notice : Notice) : Bool :=
  match filter.rules.reverse.find? fun rule => rule.covers notice.origin with
  | some rule =>
    decide (notice.severity.verbosity ≤ rule.verbosity) &&
      filter.admitsText notice.text
  | none => false

end LogFilter

/-- A notice as a line of the log, with its origin.  Of a text with more than one line the
first is shown. -/
def Notice.fullLine (notice : Notice) : String :=
  notice.severity.name ++ " " ++ notice.origin.name ++ " " ++
    String.ofList (shownLine notice.text.toList)

end TagInventory
