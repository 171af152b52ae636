import TagInventory.Text.Pattern

/-!
# Searching for a pattern

A pattern is made into an automaton: instructions that take a character, check a place or
go two ways, and one that accepts.  `Automaton.occursIn` runs it over a text once and
follows all ways at the same time.  At each place of the text an instruction is visited once,
so that the work is bounded by the length of the text and the number of instructions, and
repetitions of what may be empty end.
-/

namespace TagInventory

/-- A step of an automaton.  Instructions are named by their number. -/
inductive Instruction
  | accept
  | take (set : CharSet) (next : Nat)
  /-- Goes on at a place. -/
  | check (place : Place) (next : Nat)
  | branch (first second : Nat)
  deriving DecidableEq, Repr

/-- Instructions and the one to begin with. -/
structure Automaton where
  entry : Nat
  code : Array Instruction
  deriving DecidableEq, Repr

namespace Automaton

/-- Goes on to accept. -/
def accepting : Automaton :=
  ⟨0, #[.accept]⟩

/-- Does something before all else. -/
def before (automaton : Automaton) (instruction : Nat → Instruction) : Automaton :=
  ⟨automaton.code.size, automaton.code.push (instruction automaton.entry)⟩

/-- Does one of two things; the second is the entry of an automaton with the same code. -/
def orElse (automaton : Automaton) (other : Nat) : Automaton :=
  automaton.before fun entry => .branch entry other

/-- Reads a text of a pattern before all else. -/
def reading : Pattern → Automaton → Automaton
  | .empty, automaton => automaton
  | .literal text, automaton =>
    text.foldr (fun c automaton => automaton.before (.take (.single c))) automaton
  | .one set _, automaton => automaton.before (.take set)
  | .at place, automaton => automaton.before (.check place)
  | .group _ part, automaton => reading part automaton
  | .follow first second, automaton => reading first (reading second automaton)
  | .either first second, ⟨entry, code⟩ =>
    let ⟨other, code⟩ := reading second ⟨entry, code⟩
    (reading first ⟨entry, code⟩).orElse other
  | .repeated part least none _, ⟨entry, code⟩ =>
    let loop := code.size
    let ⟨again, code⟩ := reading part ⟨loop, code.push (.branch entry entry)⟩
    Nat.repeat (reading part) least ⟨loop, code.setIfInBounds loop (.branch again entry)⟩
  | .repeated part least (some most) _, ⟨entry, code⟩ =>
    let optional := fun rest => (reading part rest).orElse entry
    Nat.repeat (reading part) least (Nat.repeat optional (most - least) ⟨entry, code⟩)

def ofPattern (pattern : Pattern) : Automaton :=
  reading pattern accepting

/-- What was reached at a place of a text. -/
structure Reached where
  accepted : Bool
  /-- What can be taken next. -/
  waiting : List (CharSet × Nat)
  /-- The last place at which each instruction was visited. -/
  visits : Array Nat

/-- Visits instructions and those that they lead to, at a place between two characters. -/
def visit (code : Array Instruction) (place : Nat) (last next : Option Char) :
    Nat → List Nat → List (CharSet × Nat) → Array Nat → Reached
  | 0, _, waiting, visits => ⟨false, waiting, visits⟩
  | _, [], waiting, visits => ⟨false, waiting, visits⟩
  | fuel + 1, number :: others, waiting, visits =>
    if visits[number]? = some place then visit code place last next fuel others waiting visits
    else
      let visits := visits.setIfInBounds number place
      match code[number]? with
      | none => visit code place last next fuel others waiting visits
      | some .accept => ⟨true, waiting, visits⟩
      | some (.take set following) =>
        visit code place last next fuel others ((set, following) :: waiting) visits
      | some (.check asked following) =>
        if asked.holds last next then
          visit code place last next fuel (following :: others) waiting visits
        else visit code place last next fuel others waiting visits
      | some (.branch first second) =>
        visit code place last next fuel (first :: second :: others) waiting visits

/-- Visits all that is to be visited at a place; each visit adds two more at most. -/
def visitAll (automaton : Automaton) (place : Nat) (last next : Option Char)
    (numbers : List Nat) (visits : Array Nat) : Reached :=
  visit automaton.code place last next (numbers.length + 2 * automaton.code.size + 1) numbers []
    visits

/-- Whether a text is read up to some place in the rest of it.  Reading may begin anywhere,
and not all characters may be read. -/
def occursAfter (automaton : Automaton) (mayRead : Char → Bool) (place : Nat) (last : Option Char)
    (numbers : List Nat) (visits : Array Nat) : List Char → Bool
  | [] => (automaton.visitAll place last none (automaton.entry :: numbers) visits).accepted
  | c :: rest =>
    let reached := automaton.visitAll place last (some c) (automaton.entry :: numbers) visits
    reached.accepted ||
      automaton.occursAfter mayRead (place + 1) (some c)
        (if mayRead c then
          reached.waiting.filterMap fun way => if way.1.holds c then some way.2 else none
        else [])
        reached.visits rest

/-- Whether a part of a text is read that has only some characters. -/
def occursIn (automaton : Automaton) (mayRead : Char → Bool) (text : List Char) : Bool :=
  automaton.occursAfter mayRead 1 none [] (Array.replicate automaton.code.size 0) text

end Automaton

/-- Whether a part of a text is of the pattern.  Where the empty text between the units of a
character would be of the pattern, it is found in place of all that has this character, and
does not count. -/
def Pattern.occursIn (pattern : Pattern) (text : List Char) : Bool :=
  (Automaton.ofPattern pattern).occursIn
    (fun c => !pattern.isWithinCharacter || decide (c.toNat < 0x80)) text

end TagInventory
