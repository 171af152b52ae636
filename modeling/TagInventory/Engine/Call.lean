import TagInventory.Engine.Worker

/-!
# Operations of an engine

An operation is begun by a thread and carried out step by step (`Call.step`); a `Call` is
the place that the thread has reached.  Runs are kept in a slot behind a lock.

* To start a run, the lock is taken, the run in the slot is taken out, asked to stop and
  waited for, the new worker is spawned and put into the slot, and the lock is released.  When
  the machine has no thread for the worker, the slot stays empty.
* To stop, the run is taken out of the slot under the lock, the lock is released, and only
  then the run is asked to stop and waited for.
-/

namespace TagInventory

/-- A run, numbered in the order in which workers were spawned. -/
abbrev RunId := Nat

/-- The threads that carry out operations. -/
inductive Thread
  | caller (name : Nat)
  | control
  deriving DecidableEq, Repr

structure Roster where
  /-- The run that the next start or stop takes out. -/
  slot : Option RunId
  holder : Option Thread
  /-- Every worker that was spawned. -/
  workers : List Worker
  deriving DecidableEq

namespace Roster

def initial : Roster where
  slot := none
  holder := none
  workers := []

def worker? (roster : Roster) (run : RunId) : Option Worker :=
  roster.workers[run]?

def setWorker (roster : Roster) (run : RunId) (worker : Worker) : Roster :=
  { roster with workers := roster.workers.set run worker }

def requestStop (roster : Roster) (run : RunId) : Roster :=
  match roster.worker? run with
  | some worker => roster.setWorker run { worker with stopRequested := true }
  | none => roster

def isOver (roster : Roster) (run : RunId) : Bool :=
  match roster.worker? run with
  | some worker => worker.exited
  | none => true

/-- The workers that were spawned and are not over. -/
def live (roster : Roster) : List Worker :=
  roster.workers.filter fun worker => !worker.exited

end Roster

/-- The events that wait for the control thread, and whether it goes on. -/
structure ControlState where
  queue : List ControlEvent
  /-- Nobody has asked the control thread to leave. -/
  wanted : Bool
  running : Bool
  deriving DecidableEq, Repr

/-- An engine without the operations in progress. -/
structure Engine where
  core : Core
  roster : Roster
  control : ControlState
  deriving DecidableEq

namespace Engine

/-- An engine that was just built; its control thread waits for events. -/
def initial (config : EngineConfig) (connected : Bool) : Engine where
  core := .initial config connected
  roster := .initial
  control := ⟨[], true, true⟩

end Engine

/-! ### Operations -/

/-- What a thread can ask of an engine. -/
inductive Operation
  /-- Empty the link, start the reader thread and ask for the firmware version. -/
  | connect
  | execute (code : UInt8) (payload : List UInt8)
  | executeAndWait (code : UInt8) (payload : List UInt8)
  | startContinuous (requireFinalResult : Bool)
  | runBounded (cycles : UInt64) (diagnostic : Bool)
  | runClosing
  | findBrokenLabels (iterations : UInt64)
  | startIdle
  | stop
  | radioSettings
  | reportContents
  | close
  deriving DecidableEq, Repr

inductive Answer
  | done
  | refused (failure : Failure)
  | outcome (outcome : WaitOutcome)
  | settings (settings : Option RadioSettings)
  | reported (done : Bool)
  deriving DecidableEq, Repr

/-- The place of a thread that starts a run. -/
inductive StartStep
  | checking
  | locking
  | taking
  | requestingStop (old : RunId)
  | joining (old : RunId)
  | raising
  | spawning
  | storing (run : RunId)
  | unlocking
  /-- The worker could not be spawned, and the flag was taken down again. -/
  | abandoning (cause : String)
  deriving DecidableEq, Repr

/-- The place of a thread that stops the run in the slot. -/
inductive StopStep
  | locking
  | taking
  | unlocking (old : Option RunId)
  | requestingStop (old : RunId)
  | joining (old : RunId)
  | stopped
  deriving DecidableEq, Repr

/-- The place of a thread in an operation. -/
inductive Call
  | executing (request : Request)
  | writing (request : Request)
  | asking (request : Request) (exchange : Exchange)
  /-- The number of cycles of a closing run is read. -/
  | sizingClosing
  | starting (plan : RunPlan) (step : StartStep)
  | stopping (step : StopStep)
  -- Radio settings
  | checkingIdle
  | askingRegion (exchange : Exchange)
  | askingPower (region : WaitOutcome) (exchange : Exchange)
  | readingSettings (fresh : Bool)
  -- Reports
  | checkingContents
  | readingContents
  | deliveringContents (counts : Counts)
  -- Connecting
  | flushing
  | startingReader
  | askingFirmware (exchange : Exchange)
  | judging (completed : Bool)
  | failing
  | joiningReader
  -- Closing
  | dismissingControl
  | joiningControl
  | closingRun (step : StopStep)
  | closingLink
  | closingReader
  | clearingWaits
  | finished (answer : Answer)
  deriving DecidableEq, Repr

/-- A raw request, or why it is none. -/
def beginRaw (code : UInt8) (payload : List UInt8) (accepted : Request → Call) : Call :=
  match Request.ofRaw code payload with
  | .ok request => accepted request
  | .error failure => .finished (.refused failure)

/-- A diagnostic run has at least one cycle. -/
def labelPlan (iterations : UInt64) : RunPlan :=
  .bounded (max iterations 1) true

def Operation.begin : Operation → Call
  | .connect => .flushing
  | .execute code payload => beginRaw code payload .executing
  | .executeAndWait code payload => beginRaw code payload (.asking · .opening)
  | .startContinuous requireFinalResult => .starting (.continuous requireFinalResult) .checking
  | .runBounded cycles diagnostic => .starting (.bounded cycles diagnostic) .checking
  | .runClosing => .sizingClosing
  | .findBrokenLabels iterations => .starting (labelPlan iterations) .checking
  | .startIdle => .starting .idle .checking
  | .stop => .stopping .locking
  | .radioSettings => .checkingIdle
  | .reportContents => .checkingContents
  | .close => .dismissingControl

/-- What beginning an operation adds to the log. -/
def Operation.events (core : Core) : Operation → List Event
  | .execute code payload =>
    match Request.ofRaw code payload with
    | .ok request => [core.builtEvent request]
    | .error _ => []
  | _ => []

/-- Where the control thread begins with an event. -/
def ControlEvent.begin : ControlEvent → Call
  | .startContinuous requireFinalResult => .starting (.continuous requireFinalResult) .checking
  | .stop => .stopping .locking
  | .runBounded cycles => .starting (.bounded cycles false) .checking
  | .runClosing => .sizingClosing
  | .findBrokenLabels iterations => .starting (.bounded (max iterations 1) true) .checking
  | .reportContents => .checkingContents

/-- The operation that an event asks for. -/
def ControlEvent.operation : ControlEvent → Operation
  | .startContinuous requireFinalResult => .startContinuous requireFinalResult
  | .stop => .stop
  | .runBounded cycles => .runBounded cycles false
  | .runClosing => .runClosing
  | .findBrokenLabels iterations => .findBrokenLabels iterations
  | .reportContents => .reportContents

/-- The control thread begins where a caller of the same operation begins. -/
theorem ControlEvent.begin_operation (event : ControlEvent) :
    event.operation.begin = event.begin := by
  cases event <;> rfl

/-! ### Steps -/

structure CallAdvance (α : Type) where
  engine : Engine
  next : α
  events : List Event

namespace Call

/-- A step that changes nothing outside the roster. -/
def moveRoster {α : Type} (engine : Engine) (roster : Roster) (next : α)
    (notices : List Notice) : Option (CallAdvance α) :=
  some ⟨{ engine with roster := roster }, next, notices.map .noted⟩

/-- A step that changes nothing outside the core. -/
def moveCore {α : Type} (engine : Engine) (core : Core) (next : α) (notices : List Notice) :
    Option (CallAdvance α) :=
  some ⟨{ engine with core := core }, next, notices.map .noted⟩

/-- A step on the way to a new run, when nothing stands in its way. -/
def start (engine : Engine) (thread : Thread) (plan : RunPlan) : StartStep →
    Option (CallAdvance Call)
  | .checking =>
    if engine.core.initialized then moveCore engine engine.core (.starting plan .locking) []
    else moveCore engine engine.core (.finished (.refused .notInitialized)) []
  | .locking =>
    if engine.roster.holder.isNone then
      moveRoster engine { engine.roster with holder := some thread } (.starting plan .taking) []
    else none
  | .taking =>
    match engine.roster.slot with
    | some old =>
      moveRoster engine { engine.roster with slot := none }
        (.starting plan (.requestingStop old)) []
    | none => moveCore engine engine.core (.starting plan .raising) []
  | .requestingStop old =>
    moveRoster engine (engine.roster.requestStop old) (.starting plan (.joining old))
      [.runReleased]
  | .joining old =>
    if engine.roster.isOver old then moveCore engine engine.core (.starting plan .raising) []
    else none
  | .raising =>
    moveCore engine { engine.core with inventoryActive := true } (.starting plan .spawning) []
  | .spawning =>
    let run := engine.roster.workers.length
    moveRoster engine { engine.roster with workers := engine.roster.workers ++ [.spawn plan] }
      (.starting plan (.storing run)) []
  | .storing run =>
    moveRoster engine { engine.roster with slot := some run } (.starting plan .unlocking) []
  | .unlocking =>
    moveRoster engine { engine.roster with holder := none } (.finished .done) []
  | .abandoning cause =>
    moveRoster engine { engine.roster with holder := none }
      (.finished (.refused (.inputOutput cause))) []

/-- The machine has no thread for the worker.  The run before is over by now, and the slot is
empty. -/
def startFails (engine : Engine) (plan : RunPlan) (cause : String) : Option (CallAdvance Call) :=
  moveCore engine { engine.core with inventoryActive := false }
    (.starting plan (.abandoning cause)) []

def stop (engine : Engine) (thread : Thread) : StopStep → Option (CallAdvance StopStep)
  | .locking =>
    if engine.roster.holder.isNone then
      moveRoster engine { engine.roster with holder := some thread } .taking []
    else none
  | .taking =>
    moveRoster engine { engine.roster with slot := none } (.unlocking engine.roster.slot) []
  | .unlocking old =>
    moveRoster engine { engine.roster with holder := none }
      (match old with
        | some run => .requestingStop run
        | none => .stopped) []
  | .requestingStop old =>
    moveRoster engine (engine.roster.requestStop old) (.joining old) [.runReleased]
  | .joining old =>
    if engine.roster.isOver old then moveCore engine engine.core .stopped [] else none
  | .stopped => none

/-- One step of an exchange; `ended` and `failed` say where the thread goes on. -/
def ask (engine : Engine) (request : Request) (exchange : Exchange) (choice : Choice)
    (going : Exchange → Call) (ended : WaitOutcome → Call) (failed : Failure → Call) :
    Option (CallAdvance Call) :=
  (exchange.step (.ofRequest engine.core.config request) id engine.core choice).map fun advance =>
    { engine := { engine with core := advance.core }
      next :=
        match advance.next with
        | .ended outcome => ended outcome
        | .failed failure => failed failure
        | exchange => going exchange
      events := advance.events }

/-- What a waiting request is answered with: an error of the reader is a failure. -/
def answerOf : WaitOutcome → Answer
  | .rejected error => .refused (.device error)
  | outcome => .outcome outcome

/-- Whether the reader said who it is. -/
def accepts (completed : Bool) (core : Core) : Option (UInt8 × UInt8) :=
  if completed then core.session.firmware else none

def step (engine : Engine) (thread : Thread) (call : Call) (choice : Choice) :
    Option (CallAdvance Call) :=
  let core := engine.core
  match call, choice with
  | .executing request, .proceed =>
    if core.initialized then moveCore engine core (.writing request) []
    else moveCore engine core (.finished (.refused .notInitialized)) []
  | .writing request, choice =>
    (core.write (core.frameOf request) choice (.finished .done) (.finished <| .refused ·)).map
      fun advance => ⟨{ engine with core := advance.core }, advance.next, advance.events⟩
  | .asking request exchange, choice =>
    ask engine request exchange choice (.asking request) (.finished <| answerOf ·)
      (.finished <| .refused ·)
  | .sizingClosing, .proceed =>
    moveCore engine core (.starting (.bounded core.closeReadAttempts false) .checking) []
  | .starting plan step, .proceed => start engine thread plan step
  | .starting plan .spawning, .fail cause => startFails engine plan cause
  | .stopping .stopped, .proceed => moveCore engine core (.finished .done) []
  | .stopping step, .proceed =>
    (stop engine thread step).map fun advance =>
      ⟨advance.engine, .stopping advance.next, advance.events⟩
  | .checkingIdle, .proceed =>
    if core.initialized ∧ !core.inventoryActive then
      moveCore engine core (.askingRegion .opening) []
    else moveCore engine core (.finished (.settings none)) []
  | .askingRegion exchange, choice =>
    ask engine .getFrequencyRegion exchange choice .askingRegion (.askingPower · .opening)
      fun _ => .finished (.settings none)
  | .askingPower region exchange, choice =>
    ask engine .getOutputPower exchange choice (.askingPower region)
      (fun power => .readingSettings (region.isCompleted && power.isCompleted))
      fun _ => .finished (.settings none)
  | .readingSettings fresh, .proceed =>
    moveCore engine core (.finished (.settings (some core.session.settings)))
      (if fresh then [] else [.settingsStale])
  | .checkingContents, .proceed =>
    if core.inventoryActive then
      moveCore engine core (.finished (.reported false)) [.contentsWithheld]
    else moveCore engine core .readingContents []
  | .readingContents, .proceed =>
    moveCore engine core (.deliveringContents core.tags.accumulated.counts) []
  | .deliveringContents counts, .proceed =>
    some ⟨engine, .finished (.reported true), [.reported (.contents counts)]⟩
  | .flushing, choice =>
    if core.connected then
      match choice with
      | .proceed => moveCore engine core .startingReader []
      | .fail cause => moveCore engine core .startingReader [.flushFailed cause]
      | .expire => none
    else
      match choice with
      | .proceed => moveCore engine core (.finished .done) []
      | _ => none
  | .startingReader, .proceed =>
    moveCore engine { core with initialized := true, reading := true, readerRunning := true }
      (.askingFirmware .opening) []
  -- nothing reads what would be answered, so that the reader is not asked
  | .startingReader, .fail cause =>
    moveCore engine core.markFailed (.finished .done) [.readerNotStarted cause]
  | .askingFirmware exchange, choice =>
    ask engine .getFirmwareVersion exchange choice .askingFirmware (.judging <| ·.isCompleted)
      fun _ => .judging false
  | .judging completed, .proceed =>
    match accepts completed core with
    | some (major, minor) => moveCore engine core (.finished .done) [.firmwareAccepted major minor]
    | none => moveCore engine core .failing [.handshakeFailed]
  | .failing, .proceed => moveCore engine core.markFailed .joiningReader []
  | .joiningReader, .proceed =>
    if core.readerRunning then none else moveCore engine core (.finished .done) []
  | .dismissingControl, .proceed =>
    some ⟨{ engine with control := { engine.control with wanted := false } },
      .joiningControl, []⟩
  | .joiningControl, .proceed =>
    if engine.control.running then none else moveCore engine core (.closingRun .locking) []
  | .closingRun .stopped, .proceed => moveCore engine core .closingLink []
  | .closingRun step, .proceed =>
    (stop engine thread step).map fun advance =>
      ⟨advance.engine, .closingRun advance.next, advance.events⟩
  | .closingLink, .proceed => moveCore engine core.markFailed .closingReader []
  | .closingReader, .proceed =>
    if core.readerRunning then none else moveCore engine core .clearingWaits []
  | .clearingWaits, .proceed =>
    moveCore engine { core with waits := core.waits.clear } (.finished .done) []
  | _, _ => none

def demand (core : Core) : Call → Demand
  | .writing request => .write (core.frameOf request)
  | .asking request exchange => exchange.demand (.ofRequest core.config request) core
  | .askingRegion exchange => exchange.demand (.ofRequest core.config .getFrequencyRegion) core
  | .askingPower _ exchange => exchange.demand (.ofRequest core.config .getOutputPower) core
  | .askingFirmware exchange =>
    exchange.demand (.ofRequest core.config .getFirmwareVersion) core
  | .flushing => .flush
  | _ => .nothing

def answer? : Call → Option Answer
  | .finished answer => some answer
  | _ => none

end Call

end TagInventory
