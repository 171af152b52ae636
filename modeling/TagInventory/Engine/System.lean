import TagInventory.Engine.Call

/-!
# The threads of an engine

A `System` is an engine with the operations that its threads are carrying out.  It moves
by actions: a caller begins an operation, a thread takes a step, a byte arrives, an event
is queued, a tunable is changed.  `System.step` says what an action does, or that it is
not possible; `System.run` carries out a list of actions.  A list of actions is an
interleaving of the threads, and every interleaving is such a list.
-/

namespace TagInventory

/-- What can be changed while an engine runs. -/
inductive Tunable
  | pollCount (value : UInt64)
  | closeReadAttempts (value : UInt64)
  | pollInterval (milliseconds : UInt64)
  deriving DecidableEq, Repr

def Core.tune (core : Core) : Tunable → Core
  | .pollCount value => { core with pollCount := value }
  | .closeReadAttempts value => { core with closeReadAttempts := value }
  | .pollInterval milliseconds => { core with pollInterval := milliseconds }

/-- The threads that take steps of their own accord. -/
inductive Task
  | caller (name : Nat)
  | control
  | worker (run : RunId)
  deriving DecidableEq, Repr

inductive Action
  | begin (name : Nat) (operation : Operation)
  | step (task : Task) (choice : Choice)
  | enqueue (event : ControlEvent)
  /-- The reader thread handles a byte. -/
  | receive (byte : UInt8)
  | readFails (cause : String)
  /-- The reader thread notices that it is not wanted any more. -/
  | readerLeaves
  | tune (tunable : Tunable)
  deriving DecidableEq, Repr

/-- An engine and what its threads are doing. -/
structure System where
  engine : Engine
  calls : List (Nat × Call)
  /-- The event that the control thread is handling. -/
  handling : Option (ControlEvent × Call)
  deriving DecidableEq

namespace System

/-- An engine on which nobody has begun an operation. -/
def initial (config : EngineConfig) (connected : Bool) : System where
  engine := .initial config connected
  calls := []
  handling := none

def core (system : System) : Core :=
  system.engine.core

def roster (system : System) : Roster :=
  system.engine.roster

def setCore (system : System) (core : Core) : System :=
  { system with engine := { system.engine with core := core } }

def call? (system : System) (name : Nat) : Option Call :=
  system.calls.lookup name

def setCall (system : System) (name : Nat) (call : Call) : System :=
  { system with calls := (name, call) :: system.calls.filter fun entry => entry.1 != name }

/-- The answer to a caller whose operation is over. -/
def answer? (system : System) (name : Nat) : Option Answer :=
  (system.call? name).bind Call.answer?

/-- A caller may begin an operation when it is not in the middle of another one. -/
def isFree (system : System) (name : Nat) : Bool :=
  match system.call? name with
  | some call => call.answer?.isSome
  | none => true

def stepCaller (system : System) (name : Nat) (choice : Choice) : Option (System × List Event) :=
  (system.call? name).bind fun call =>
    (call.step system.engine (.caller name) choice).map fun advance =>
      ({ system with engine := advance.engine }.setCall name advance.next, advance.events)

def stepWorker (system : System) (run : RunId) (choice : Choice) :
    Option (System × List Event) :=
  (system.roster.worker? run).bind fun worker =>
    (worker.step system.core choice).map fun advance =>
      ({ system with
          engine := { system.engine with
            core := advance.core
            roster := system.roster.setWorker run advance.next } }, advance.events)

/-- What the control thread notes about an event that was refused. -/
def refusal (event : ControlEvent) : Answer → List Event
  | .refused failure => [.noted (.controlRefused event failure)]
  | _ => []

/-- One step of the control thread: the next event, a step of the event in hand, or the end.
A thread that nobody wants any more may leave with events in its queue. -/
def stepControl (system : System) (choice : Choice) : Option (System × List Event) :=
  let control := system.engine.control
  match system.handling with
  | some (event, .finished answer) =>
    if choice = .proceed then some ({ system with handling := none }, refusal event answer)
    else none
  | some (event, call) =>
    (call.step system.engine .control choice).map fun advance =>
      ({ system with engine := advance.engine, handling := some (event, advance.next) },
        advance.events)
  | none =>
    match choice, control.queue with
    | .proceed, event :: queue =>
      if control.running then
        some ({ system with
            engine := { system.engine with control := { control with queue := queue } }
            handling := some (event, event.begin) },
          [.noted (.controlReceived event)])
      else none
    | .expire, _ =>
      if control.running ∧ !control.wanted then
        some ({ system with
            engine := { system.engine with control := { control with running := false } } },
          [.noted .controlStopped])
      else none
    | _, _ => none

/-- What an action does, and what it shows; `none` when it is not possible. -/
def step (system : System) : Action → Option (System × List Event)
  | .begin name operation =>
    if system.isFree name then
      some (system.setCall name operation.begin, operation.events system.core)
    else none
  | .step (.caller name) choice => system.stepCaller name choice
  | .step .control choice => system.stepControl choice
  | .step (.worker run) choice => system.stepWorker run choice
  | .enqueue event =>
    let control := system.engine.control
    some ({ system with
        engine := { system.engine with
          control := { control with queue := control.queue ++ [event] } } },
      [])
  | .receive byte =>
    if system.core.readerRunning then
      some (system.setCore (system.core.receive byte), system.core.receiveEvents byte)
    else none
  | .readFails cause =>
    if system.core.readerRunning then
      some (system.setCore { system.core.markFailed with readerRunning := false },
        [.noted (.readFailed cause), .noted .readerStopped])
    else none
  | .readerLeaves =>
    if system.core.readerRunning ∧ !system.core.reading then
      some (system.setCore { system.core with readerRunning := false }, [.noted .readerStopped])
    else none
  | .tune tunable => some (system.setCore (system.core.tune tunable), [])

/-- Carries out actions one after the other; `none` when one of them is not possible. -/
def run (system : System) : List Action → Option (System × List Event)
  | [] => some (system, [])
  | action :: actions =>
    (system.step action).bind fun (next, events) =>
      (next.run actions).map fun (last, later) => (last, events ++ later)

/-- An engine that some interleaving leads to. -/
def Reachable (config : EngineConfig) (connected : Bool) (system : System) : Prop :=
  ∃ actions events, (initial config connected).run actions = some (system, events)

/-! ### What the threads wait for -/

def tasks (system : System) : List Task :=
  .control :: system.calls.map (fun entry => .caller entry.1) ++
    (List.range system.roster.workers.length).map .worker

def demand (system : System) : Task → Demand
  | .caller name =>
    match system.call? name with
    | some call => call.demand system.core
    | none => .nothing
  | .control =>
    match system.handling with
    | some (_, call) => call.demand system.core
    | none => if system.engine.control.wanted then .nothing else .timer 0
  | .worker run =>
    match system.roster.worker? run with
    | some worker => worker.demand system.core
    | none => .nothing

@[simp] theorem run_nil (system : System) : system.run [] = some (system, []) := rfl

theorem run_cons (system : System) (action : Action) (actions : List Action) :
    system.run (action :: actions) =
      (system.step action).bind fun (next, events) =>
        (next.run actions).map fun (last, later) => (last, events ++ later) := rfl

end System

end TagInventory
