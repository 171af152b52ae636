import TagInventory.Engine.Exchange

/-!
# Inventory workers

A worker carries out one run.  A run is a sequence of cycles; a cycle is one or more
polls, after which the tags found are compared with those of the cycle before.  A poll is

* a pause that lets the field settle,
* an inventory request, whose outcome does not matter,
* a request for the number of buffered tags, and, unless it is zero,
* a request for the buffer, which ends when all tags were received.

`Worker.step` is one step of the thread, from one critical section to the next.  Between
any two steps other threads may act; in particular a stop may be requested, which a
worker notices in its pauses and after each poll, and nowhere else.
-/

namespace TagInventory

/-- What a worker is to do. -/
inductive RunPlan
  /-- A number of cycles and one report; a diagnostic run counts occurrences. -/
  | bounded (cycles : UInt64) (diagnostic : Bool)
  /-- Cycles until stopped; changes are reported when a final result is required. -/
  | continuous (requireFinalResult : Bool)
  /-- From time to time one cycle and a report of the contents. -/
  | idle
  deriving DecidableEq, Repr

inductive PollStage
  | inventory
  | count
  | buffer (announced : UInt16)
  deriving DecidableEq, Repr

namespace PollStage

/-- What the poll asks, and the answer that it waits for. -/
def question (config : EngineConfig) : PollStage → Question
  | inventory => .ofRequest config (.inventory config.inventoryRounds)
  | count => .ofRequest config .getInventoryBufferTagCount
  | buffer _ => ⟨.getAndResetInventoryBuffer, .allTagsReceived, config.allTagsTimeout⟩

/-- What is done before the answer can come. -/
def prepare (core : Core) : PollStage → Core
  | inventory => core
  | count => core.setSession (core.session.setTagCount 0)
  | buffer _ => { core with tags := core.tags.after .beginBufferRead }

end PollStage

/-- The place of a worker in its run. -/
inductive WorkerPhase
  | starting
  /-- A cycle may begin, or the run may be over. -/
  | choosing
  /-- The number of polls of a cycle is read. -/
  | tuning
  | idling
  /-- An idle run begins a cycle of its own. -/
  | waking
  | openingCycle
  | settling
  | asking (stage : PollStage) (exchange : Exchange)
  /-- The count that was answered is read. -/
  | counting
  /-- The buffer read becomes part of the cycle. -/
  | absorbing (announced : UInt16)
  | checkingStop
  | committing
  /-- The pause after a cycle is read. -/
  | spacing
  | pausing
  /-- The contents of a report are read. -/
  | collecting
  | reporting (report : Report)
  | leaving (failure : Option Failure)
  | exited
  deriving DecidableEq, Repr

structure Worker where
  plan : RunPlan
  phase : WorkerPhase
  stopRequested : Bool
  /-- Cycles of a bounded run that are over. -/
  completed : Nat
  /-- The poll of the cycle in progress, from zero. -/
  attempt : Nat
  attempts : Nat
  interval : UInt64
  deriving DecidableEq, Repr

namespace Worker

def spawn (plan : RunPlan) : Worker where
  plan := plan
  phase := .starting
  stopRequested := false
  completed := 0
  attempt := 0
  attempts := 1
  interval := 0

def exited (worker : Worker) : Bool :=
  worker.phase = .exited

def goto (worker : Worker) (phase : WorkerPhase) : Worker :=
  { worker with phase := phase }

/-- A step that changes nothing shared. -/
def move (core : Core) (worker : Worker) (notices : List Notice) :
    Option (Advance Worker) :=
  some ⟨core, worker, notices.map .noted⟩

/-- A pause ends when a stop is requested, and otherwise with its timer. -/
def pause (core : Core) (worker : Worker) (choice : Choice) (stopped elapsed : WorkerPhase)
    (notices : List Notice) : Option (Advance Worker) :=
  match choice with
  | .proceed => if worker.stopRequested then move core (worker.goto stopped) [] else none
  | .expire => if worker.stopRequested then none else move core (worker.goto elapsed) notices
  | .fail _ => none

/-- Goes on with a poll after an answer, or leaves the run after a failure. -/
def afterExchange (stage : PollStage) (worker : Worker) (advance : Advance Exchange) :
    Advance Worker :=
  let next (phase : WorkerPhase) (notices : List Notice) : Advance Worker :=
    ⟨advance.core, worker.goto phase, advance.events ++ notices.map .noted⟩
  match advance.next, stage with
  | .failed failure, _ => next (.leaving (some failure)) []
  | .ended _, .inventory => next (.asking .count .opening) []
  | .ended .completed, .count => next .counting []
  | .ended _, .count => next .checkingStop [.bufferCounted 0, .bufferEmpty]
  | .ended _, .buffer announced => next (.absorbing announced) []
  | exchange, stage => next (.asking stage exchange) []

/-- The report at the end of a bounded run or an idle cycle. -/
def finalReport (plan : RunPlan) (tags : TagViews) : Report :=
  match plan with
  | .bounded _ true => .occurrences tags.occurrences.counts
  | _ => .contents tags.accumulated.counts

/-- The end of a cycle: the tags are compared with the snapshot and become the snapshot. -/
def commitCycle (core : Core) (worker : Worker) : Advance Worker :=
  let difference := core.tags.difference
  let phase : WorkerPhase :=
    match worker.plan with
    | .bounded .. => .spacing
    | .continuous requireFinalResult =>
      if requireFinalResult ∧ !difference.isEmpty then
        .reporting (.change difference.removed difference.added)
      else .pausing
    | .idle => .collecting
  let (committed, events) := core.tagOperation .commit
  ⟨committed, worker.goto phase, core.tags.differenceNotices.map .noted ++ events⟩

def step (core : Core) (worker : Worker) (choice : Choice) : Option (Advance Worker) :=
  match worker.phase, choice with
  | .starting, .proceed =>
    match worker.plan with
    | .bounded _ diagnostic =>
      let (core, events) := core.tagOperation (.beginRun diagnostic)
      some ⟨core, worker.goto .choosing, .noted .runStarted :: events⟩
    | .continuous _ =>
      let (core, events) := core.tagOperation (.beginRun false)
      some ⟨core, worker.goto .choosing, events⟩
    | .idle => move core (worker.goto .idling) []
  | .choosing, .proceed =>
    match worker.plan with
    | .bounded cycles _ =>
      if worker.completed < cycles.toNat then move core (worker.goto .openingCycle) []
      else move core (worker.goto .collecting) [.runCompleted]
    | .continuous _ =>
      if worker.stopRequested then move core (worker.goto (.leaving none)) []
      else move core (worker.goto .tuning) []
    | .idle => move core (worker.goto .idling) []
  | .tuning, .proceed =>
    let attempts :=
      match worker.plan with
      | .continuous true => core.pollCount.toNat
      | _ => 1
    move core
      { worker with
        phase := .openingCycle, attempts := max attempts 1, interval := core.pollInterval }
      []
  | .idling, choice => pause core worker choice (.leaving none) .waking [.idlePeriod]
  | .waking, .proceed =>
    let (core, events) := core.tagOperation (.beginRun false)
    some ⟨core, worker.goto .openingCycle, events⟩
  | .openingCycle, .proceed =>
    let (core, events) := core.tagOperation .beginCycle
    some ⟨core, { worker with phase := .settling, attempt := 0 },
      events ++ [.noted (.pollStarted 0)]⟩
  | .settling, choice =>
    pause core worker choice .checkingStop (.asking .inventory .opening) []
  | .asking stage exchange, choice =>
    (exchange.step (stage.question core.config) (stage.prepare ·) core choice).map
      (afterExchange stage worker)
  | .counting, .proceed =>
    let count := core.session.tagCount
    if count = 0 then
      move core (worker.goto .checkingStop) [.bufferCounted count, .bufferEmpty]
    else
      move core (worker.goto (.asking (.buffer count) .opening)) [.bufferCounted count]
  | .absorbing announced, .proceed =>
    let received := core.tags.received
    let (core, events) := core.tagOperation .absorb
    some ⟨core, worker.goto .checkingStop,
      events ++ [.noted (.bufferReadEnded received announced)]⟩
  | .checkingStop, .proceed =>
    if worker.stopRequested then move core (worker.goto (.leaving none)) []
    else if worker.attempt + 1 < worker.attempts then
      move core { worker with phase := .settling, attempt := worker.attempt + 1 }
        [.pollStarted (worker.attempt + 1)]
    else move core (worker.goto .committing) []
  | .committing, .proceed => some (commitCycle core worker)
  | .spacing, .proceed =>
    let worker := { worker with completed := worker.completed + 1, interval := core.pollInterval }
    match worker.plan with
    | .bounded cycles _ =>
      if worker.completed < cycles.toNat then move core (worker.goto .pausing) []
      else move core (worker.goto .choosing) []
    | _ => move core (worker.goto .choosing) []
  | .pausing, choice => pause core worker choice (.leaving none) .choosing []
  | .collecting, .proceed =>
    move core (worker.goto (.reporting (finalReport worker.plan core.tags))) []
  | .reporting report, .proceed =>
    let phase : WorkerPhase :=
      match worker.plan with
      | .bounded .. => .leaving none
      | .continuous _ => .pausing
      | .idle => .idling
    some ⟨core, worker.goto phase, [.reported report]⟩
  | .leaving failure, .proceed =>
    some ⟨{ core with inventoryActive := false }, worker.goto .exited,
      failure.toList.map fun cause => .noted (.runFailed cause)⟩
  | _, _ => none

def demand (core : Core) (worker : Worker) : Demand :=
  match worker.phase with
  | .settling => .timer core.config.settleDelay.toNat
  | .pausing => .timer worker.interval.toNat
  | .idling => .timer core.config.idleInterval.toNat
  | .asking stage exchange => exchange.demand (stage.question core.config) core
  | _ => .nothing

end Worker

end TagInventory
