import TagInventory.Notice

/-!
# Waiting for answers

A wait is opened for a command before its request is sent.  The table knows the newest
wait of each command; an answer is delivered to that one, once.  A wait that was replaced
by a newer one, or lost its place when the table was cleared, ends superseded unless its
outcome had been delivered before.

Tickets number the waits in the order in which they were opened, so that a wait keeps its
identity after it was replaced.
-/

namespace TagInventory

/-- How a wait ended. -/
inductive WaitOutcome
  | completed
  /-- The reader answered with an error. -/
  | rejected (error : DeviceError)
  | timedOut
  /-- A newer wait took its place, or the table was cleared. -/
  | superseded
  deriving DecidableEq, Repr

/-- Whether the answer arrived and was no error. -/
def WaitOutcome.isCompleted : WaitOutcome → Bool
  | .completed => true
  | _ => false

/-- The name of a wait. -/
abbrev Ticket := Nat

/-- A wait that nobody has given up or finished. -/
structure OpenWait where
  ticket : Ticket
  command : Command
  /-- The outcome that was delivered and not fetched yet. -/
  delivered : Option WaitOutcome
  deriving DecidableEq, Repr

/-- The waits and which of them is reached through its command. -/
structure WaitTable where
  /-- The number of waits opened so far; the next ticket. -/
  issued : Nat
  /-- The newest wait of each command since the table was cleared. -/
  entries : List (Command × Ticket)
  waits : List OpenWait
  deriving DecidableEq, Repr

namespace WaitTable

def initial : WaitTable where
  issued := 0
  entries := []
  waits := []

/-- The ticket that answers to a command are delivered to. -/
def newest? (table : WaitTable) (command : Command) : Option Ticket :=
  table.entries.lookup command

def contains (table : WaitTable) (command : Command) : Bool :=
  (table.newest? command).isSome

def wait? (table : WaitTable) (ticket : Ticket) : Option OpenWait :=
  table.waits.find? fun wait => wait.ticket == ticket

/-- Opens a wait for a command, in place of an older one. -/
def register (table : WaitTable) (command : Command) : Ticket × WaitTable :=
  (table.issued,
    { issued := table.issued + 1
      entries := (command, table.issued) :: table.entries.filter fun entry => entry.1 != command
      waits := table.waits ++ [⟨table.issued, command, none⟩] })

/-- The wait that a signal for a command reaches: it has the place of the command, is
held by somebody and got no outcome yet. -/
def target? (table : WaitTable) (command : Command) : Option OpenWait :=
  ((table.newest? command).bind table.wait?).filter fun wait => wait.delivered.isNone

/-- Delivers an outcome to the wait of a command; says whether there was one. -/
def signal (table : WaitTable) (command : Command) (outcome : WaitOutcome) : Bool × WaitTable :=
  match table.target? command with
  | some target =>
    (true,
      { table with
        waits := table.waits.map fun wait =>
          if wait.ticket = target.ticket then { wait with delivered := some outcome } else wait })
  | none => (false, table)

def complete (table : WaitTable) (command : Command) : Bool × WaitTable :=
  table.signal command .completed

def reject (table : WaitTable) (command : Command) (error : DeviceError) : Bool × WaitTable :=
  table.signal command (.rejected error)

/-- Takes every wait out of reach. -/
def clear (table : WaitTable) : WaitTable :=
  { table with entries := [] }

/-- The holder of a ticket gives it up, finished or not. -/
def release (table : WaitTable) (ticket : Ticket) : WaitTable :=
  { table with waits := table.waits.filter fun wait => wait.ticket != ticket }

/-- The outcome that a wait has without waiting any longer. -/
def outcome? (table : WaitTable) (ticket : Ticket) : Option WaitOutcome :=
  match table.wait? ticket with
  | some wait =>
    match wait.delivered with
    | some outcome => some outcome
    | none => if table.newest? wait.command = some ticket then none else some .superseded
  | none => none

@[simp] theorem register_ticket (table : WaitTable) (command : Command) :
    (table.register command).1 = table.issued := rfl

@[simp] theorem contains_clear (table : WaitTable) (command : Command) :
    table.clear.contains command = false := rfl

theorem newest?_register_self (table : WaitTable) (command : Command) :
    (table.register command).2.newest? command = some table.issued := by
  simp [register, newest?]

end WaitTable

end TagInventory
