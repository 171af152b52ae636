import TagInventory.Bench.ScriptedReader
import TagInventory.Engine.System

/-!
# Test benches

A bench runs a system on a scripted reader in simulated time.  At every moment it takes
the first step that is possible, in this order: the control thread, the callers, the
workers, the reader thread.  When no step is possible, time goes on to the next moment at
which one may be: a timer that ends or the next read.

The reader thread reads up to `chunkSize` bytes at once, handles them one by one, and reads
again a millisecond later.

Every step of the system goes through `System.step`, so that what a bench shows is one
interleaving of the threads among those that are possible.
-/

namespace TagInventory

/-- The number of bytes that the reader thread takes at once. -/
def chunkSize : Nat := 64

/-- A system on a bench. -/
structure Bench where
  system : System
  reader : ScriptedReader
  /-- Milliseconds since the bench was set up. -/
  clock : Nat
  nextRead : Nat
  /-- Bytes that were read and not handled yet. -/
  inHand : List UInt8
  /-- The moment of the last step of each thread. -/
  stamps : List (Task × Nat)
  /-- Reports that were not fetched yet, the newest first. -/
  reports : List Report
  log : List Notice
  /-- The number of requests that were fetched. -/
  fetchedWrites : Nat
  logsReports : Bool

namespace Bench

def initial (config : EngineConfig) (connected : Bool) (reader : ScriptedReader) : Bench where
  system := .initial config connected
  reader := reader
  clock := 0
  nextRead := 0
  inHand := []
  stamps := []
  reports := []
  log := []
  fetchedWrites := 0
  logsReports := false

def core (bench : Bench) : Core :=
  bench.system.core

def stamp (bench : Bench) (task : Task) : Nat :=
  (bench.stamps.lookup task).getD bench.clock

def setStamp (bench : Bench) (task : Task) : Bench :=
  { bench with stamps := (task, bench.clock) :: bench.stamps.filter fun entry => entry.1 != task }

def note (bench : Bench) (event : Event) : Bench :=
  match event with
  | .wrote _ => bench
  | .reported report =>
    { bench with
      reports := report :: bench.reports
      log := if bench.logsReports then report.notices.reverse ++ bench.log else bench.log }
  | .noted notice => { bench with log := notice :: bench.log }

def act? (bench : Bench) (action : Action) : Option Bench :=
  (bench.system.step action).map fun (system, events) =>
    events.foldl note { bench with system := system }

/-- A step of a thread that depends on nothing outside or on the link. -/
def stepTask? (bench : Bench) (task : Task) : Option Bench :=
  let take (bench : Bench) (choice : Choice) : Option Bench :=
    (bench.act? (.step task choice)).map fun next => next.setStamp task
  match bench.system.demand task with
  | .nothing => take bench .proceed
  | .write frame =>
    match bench.reader.write frame with
    | (none, reader) => take { bench with reader := reader } .proceed
    | (some cause, reader) => take { bench with reader := reader } (.fail cause)
  | .flush =>
    match bench.reader.flush with
    | .ok reader => take { bench with reader := reader } .proceed
    | .error cause => take bench (.fail cause)
  | .timer milliseconds =>
    match take bench .proceed with
    | some next => some next
    | none =>
      if bench.stamp task + milliseconds ≤ bench.clock then take bench .expire else none

def stepReader? (bench : Bench) : Option Bench :=
  match bench.inHand with
  | byte :: rest =>
    (bench.act? (.receive byte)).map fun next =>
      { next with inHand := rest, nextRead := bench.clock + 1 }
  | [] =>
    if bench.core.readerRunning then
      if bench.core.reading then
        if bench.nextRead ≤ bench.clock then
          match bench.reader.readFailure, bench.reader.line with
          | some cause, _ => bench.act? (.readFails cause)
          | none, [] => none
          | none, line =>
            some { bench with
              inHand := line.take chunkSize
              reader := { bench.reader with line := line.drop chunkSize } }
        else none
      else bench.act? .readerLeaves
    else none

/-- The first step that is possible now. -/
def step? (bench : Bench) : Option Bench :=
  match bench.system.tasks.findSome? bench.stepTask? with
  | some next => some next
  | none => bench.stepReader?

/-- The moment at which a waiting thread goes on at the latest. -/
def deadline? (bench : Bench) (task : Task) : Option Nat :=
  match bench.system.demand task with
  | .timer milliseconds => some (bench.stamp task + milliseconds)
  | _ => none

/-- The moment of the next read that brings something. -/
def arrival? (bench : Bench) : Option Nat :=
  if bench.core.readerRunning ∧ bench.core.reading ∧
      (bench.reader.readFailure.isSome ∨ !bench.reader.line.isEmpty) then
    some bench.nextRead
  else none

def nextMoment? (bench : Bench) : Option Nat :=
  let moments := bench.system.tasks.filterMap bench.deadline? ++ bench.arrival?.toList
  (moments.filter fun moment => bench.clock < moment).min?

/-- Steps without letting time go on, until none is possible. -/
def settle (fuel : Nat) (bench : Bench) : Bench :=
  match fuel with
  | 0 => bench
  | fuel + 1 =>
    match bench.step? with
    | some next => next.settle fuel
    | none => bench

/-- Steps and lets time go on, until the goal is reached or nothing more will happen; no
further than to the moment `limit`. -/
def runUntil (goal : Bench → Bool) (limit : Option Nat) (fuel : Nat) (bench : Bench) : Bench :=
  match fuel with
  | 0 => bench
  | fuel + 1 =>
    if goal bench then bench
    else
      match bench.step? with
      | some next => next.runUntil goal limit fuel
      | none =>
        match bench.nextMoment?, limit with
        | some moment, some latest =>
          if moment ≤ latest then { bench with clock := moment }.runUntil goal limit fuel
          else bench
        | some moment, none => { bench with clock := moment }.runUntil goal limit fuel
        | none, _ => bench

/-- More steps than any sensible script takes. -/
def patience : Nat := 1000000

def await (goal : Bench → Bool) (bench : Bench) : Bench :=
  (bench.runUntil goal none patience).settle patience

def sleep (milliseconds : Nat) (bench : Bench) : Bench :=
  let latest := bench.clock + milliseconds
  { bench.runUntil (fun _ => false) (some latest) patience with clock := latest }.settle patience

/-! ### Calls -/

/-- The caller that carries out the steps of a script. -/
def mainCaller : Nat := 0

def secondCaller : Nat := 1

def begin (bench : Bench) (caller : Nat) (operation : Operation) : Bench :=
  match bench.act? (.begin caller operation) with
  | some next => next.setStamp (.caller caller)
  | none => bench

def answered (caller : Nat) (bench : Bench) : Bool :=
  (bench.system.answer? caller).isSome

def answerTo (bench : Bench) (caller : Nat) : Answer :=
  (bench.system.answer? caller).getD .done

def operate (bench : Bench) (operation : Operation) : Answer × Bench :=
  let bench := (bench.begin mainCaller operation).runUntil (answered mainCaller) none patience
  (bench.answerTo mainCaller, bench.settle patience)

def writes (bench : Bench) : Nat :=
  bench.reader.received.length

/-- Two calls of one kind: the second begins when the first has written its request. -/
def overlap (bench : Bench) (operation : Operation) : Answer × Answer × Bench :=
  let before := bench.writes
  let bench := (bench.begin mainCaller operation).runUntil
    (fun bench => before < bench.writes || answered mainCaller bench) none patience
  let bench := (bench.begin secondCaller operation).await fun bench =>
    answered mainCaller bench && answered secondCaller bench
  (bench.answerTo mainCaller, bench.answerTo secondCaller, bench)

def control (bench : Bench) (event : ControlEvent) : Bench :=
  ((bench.act? (.enqueue event)).getD bench).settle patience

def tune (bench : Bench) (tunable : Tunable) : Bench :=
  ((bench.act? (.tune tunable)).getD bench).settle patience

/-- Bytes come in that nobody asked for. -/
def inject (bench : Bench) (bytes : List UInt8) : Bench :=
  { bench with reader := bench.reader.inject bytes }.settle patience

/-! ### Waiting -/

def awaitIdle : Bench → Bench :=
  await fun bench => !bench.core.inventoryActive

/-- Runs until the link has failed. -/
def awaitUninitialized : Bench → Bench :=
  await fun bench => !bench.core.initialized

def awaitReports (count : Nat) : Bench → Bench :=
  await fun bench => count ≤ bench.reports.length

/-- Runs until a number of requests was received in all. -/
def awaitWrites (count : Nat) : Bench → Bench :=
  await fun bench => count ≤ bench.writes

/-- Runs until every readable byte was handled. -/
def drain : Bench → Bench :=
  await fun bench =>
    !bench.core.initialized || (bench.reader.line.isEmpty && bench.inHand.isEmpty)

/-! ### Fetching -/

def takeReports (bench : Bench) : List Report × Bench :=
  (bench.reports.reverse, { bench with reports := [] })

def takeWrites (bench : Bench) : List Frame × Bench :=
  (bench.reader.received.reverse.drop bench.fetchedWrites,
    { bench with fetchedWrites := bench.writes })

def connect (config : EngineConfig) (connected : Bool) (reader : ScriptedReader) : Bench :=
  ((initial config connected reader).operate .connect).2

end Bench

end TagInventory
