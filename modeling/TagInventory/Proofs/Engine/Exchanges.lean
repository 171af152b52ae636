import TagInventory.Engine.System
import TagInventory.Proofs.Engine.Receiving
import TagInventory.Proofs.Waiting

/-!
# What the steps of a thread do to the waits and the receiver

A thread in the middle of an exchange holds the ticket of its wait.  `WaitStep` lists what
one step can do to the table and to the ticket of the thread that takes it: open a wait,
give it up, clear the table, or leave the table alone.  Calls and workers only ever take
such steps (`Call.step_waits`, `Worker.step_waits`), and the receiver changes in none of
them but for the count that a poll resets (`Call.step_receiver`, `Worker.step_receiver`).
-/

namespace TagInventory

/-! ## The ticket of a thread -/

/-- The ticket that a thread in an exchange holds. -/
def Exchange.ticket? : Exchange → Option Ticket
  | checking ticket | writing ticket | awaiting ticket => some ticket
  | _ => none

namespace Call

/-- The exchange that a call is in, and its request. -/
def exchange? : Call → Option (Request × Exchange)
  | asking request exchange => some (request, exchange)
  | askingRegion exchange => some (.getFrequencyRegion, exchange)
  | askingPower _ exchange => some (.getOutputPower, exchange)
  | askingFirmware exchange => some (.getFirmwareVersion, exchange)
  | _ => none

/-- The ticket that a caller holds. -/
def ticket? (call : Call) : Option Ticket :=
  call.exchange?.bind fun entry => entry.2.ticket?

/-- The command for which the next step opens a wait. -/
def opens? (call : Call) : Option Command :=
  match call.exchange? with
  | some (request, .opening) => some request.command
  | _ => none

/-- Whether the next step clears the table. -/
def clears : Call → Bool
  | clearingWaits => true
  | _ => false

end Call

namespace WorkerPhase

/-- The ticket that a worker holds. -/
def ticket? : WorkerPhase → Option Ticket
  | asking _ exchange => exchange.ticket?
  | _ => none

/-- The command for which the next step opens a wait. -/
def opens? (config : EngineConfig) : WorkerPhase → Option Command
  | asking stage .opening => some (stage.question config).expected
  | _ => none

end WorkerPhase

/-! ## Steps -/

/-- What a step does to the table and to the ticket of the thread that takes it.  The first
two arguments say for which command a wait is opened and whether the table is cleared. -/
inductive WaitStep : Option Command → Bool → WaitTable × Option Ticket →
    WaitTable × Option Ticket → Prop
  | idle (table : WaitTable) (held : Option Ticket) :
      WaitStep none false (table, held) (table, held)
  | open (table : WaitTable) (command : Command) :
      WaitStep (some command) false (table, none)
        ((table.register command).2, some table.issued)
  | release (table : WaitTable) (ticket : Ticket) :
      WaitStep none false (table, some ticket) (table.release ticket, none)
  | clear (table : WaitTable) : WaitStep none true (table, none) (table.clear, none)

/-- The steps of an exchange, one case for each. -/
inductive ExchangeStep (question : Question) (prepare : Core → Core) (core : Core) :
    Exchange → Choice → Advance Exchange → Prop
  | opened :
      ExchangeStep question prepare core .opening .proceed
        ⟨((prepare core).register question.expected).2, .checking (prepare core).waits.issued,
          [((prepare core).register question.expected).2.builtEvent question.request]⟩
  | checked (ticket : Ticket) (h : core.initialized = true) :
      ExchangeStep question prepare core (.checking ticket) .proceed
        ⟨core, .writing ticket, []⟩
  | withheld (ticket : Ticket) (h : core.initialized = false) :
      ExchangeStep question prepare core (.checking ticket) .proceed
        ⟨core.release ticket, .failed .notInitialized, []⟩
  | wrote (ticket : Ticket) (h : core.connected = true) :
      ExchangeStep question prepare core (.writing ticket) .proceed
        ⟨core, .awaiting ticket, [.wrote (core.frameOf question.request)]⟩
  | broke (ticket : Ticket) (cause : String) (h : core.connected = true) :
      ExchangeStep question prepare core (.writing ticket) (.fail cause)
        ⟨core.markFailed.release ticket, .failed (.transport cause), [.noted (.writeFailed cause)]⟩
  | unlinked (ticket : Ticket) (h : core.connected = false) :
      ExchangeStep question prepare core (.writing ticket) .proceed
        ⟨core.release ticket, .failed .notInitialized, []⟩
  | answered (ticket : Ticket) (outcome : WaitOutcome)
      (h : core.waits.outcome? ticket = some outcome) :
      ExchangeStep question prepare core (.awaiting ticket) .proceed
        ⟨core.release ticket, .ended outcome, []⟩
  | expired (ticket : Ticket) :
      ExchangeStep question prepare core (.awaiting ticket) .expire
        ⟨core.release ticket, .ended .timedOut, [.noted (.waitExpired question.expected)]⟩

theorem Exchange.step_case {question : Question} {prepare : Core → Core} {core : Core}
    {exchange : Exchange} {choice : Choice} {advance : Advance Exchange}
    (h : exchange.step question prepare core choice = some advance) :
    ExchangeStep question prepare core exchange choice advance := by
  cases exchange with
  | opening =>
      cases choice <;> cases h
      exact .opened
  | checking ticket =>
      cases choice <;> simp only [Exchange.step, reduceCtorEq] at h
      split at h <;> rename_i hinitialized <;> cases h
      · exact .checked ticket hinitialized
      · exact .withheld ticket (by simpa using hinitialized)
  | writing ticket =>
      rw [Exchange.step, Option.map_eq_some_iff] at h
      obtain ⟨written, hwrite, rfl⟩ := h
      -- without a link the write cannot fail in any way of its own
      unfold Core.write at hwrite
      split at hwrite <;> rename_i hconnected <;> cases choice <;> cases hwrite
      · exact .wrote ticket hconnected
      · exact .broke ticket _ hconnected
      · exact .unlinked ticket (by simpa using hconnected)
  | awaiting ticket =>
      cases choice with
      | proceed =>
          rw [Exchange.step, Option.map_eq_some_iff] at h
          obtain ⟨outcome, houtcome, rfl⟩ := h
          exact .answered ticket outcome houtcome
      | expire =>
          cases h
          exact .expired ticket
      | fail cause => cases h
  | ended outcome => cases choice <;> cases h
  | failed failure => cases choice <;> cases h

/-- What a step leaves of an exchange: it opens a wait, gives it up or keeps it. -/
theorem Exchange.step_waits {question : Question} {prepare : Core → Core} {core : Core}
    {exchange : Exchange} {choice : Choice} {advance : Advance Exchange}
    (hprepare : (prepare core).waits = core.waits)
    (h : exchange.step question prepare core choice = some advance) :
    WaitStep (if exchange = .opening then some question.expected else none) false
      (core.waits, exchange.ticket?) (advance.core.waits, advance.next.ticket?) := by
  cases Exchange.step_case h with
  | opened =>
      rw [if_pos rfl, ← hprepare]
      exact .open _ _
  | checked | wrote => exact .idle _ _
  | withheld | broke | unlinked | answered | expired => exact .release _ _

/-- Only `prepare` touches the receiver. -/
theorem Exchange.step_receiver {question : Question} {prepare : Core → Core} {core : Core}
    {exchange : Exchange} {choice : Choice} {advance : Advance Exchange}
    (h : exchange.step question prepare core choice = some advance) :
    advance.core.receiver =
      if exchange = .opening then (prepare core).receiver else core.receiver := by
  cases Exchange.step_case h <;> rfl

/-- What starting or stopping a run, or reporting the contents, is answered with. -/
def Answer.isOfErrand : Answer → Bool
  | .done | .reported _ | .refused .notInitialized | .refused (.inputOutput _) => true
  | _ => false

namespace Call

variable {engine : Engine} {thread : Thread} {choice : Choice}

/-- Only the spawning of the worker can fail on the way to a new run. -/
theorem starting_case {plan : RunPlan} {step : StartStep} {advance : CallAdvance Call}
    (h : (starting plan step).step engine thread choice = some advance) :
    (choice = .proceed ∧ start engine thread plan step = some advance) ∨
      ∃ cause, choice = .fail cause ∧ step = .spawning ∧
        startFails engine plan cause = some advance := by
  cases choice with
  | proceed => exact .inl ⟨rfl, h⟩
  | expire => cases step <;> cases h
  | fail cause =>
      cases step with
      | spawning => exact .inr ⟨cause, rfl, rfl, h⟩
      | _ => cases h

/-- What a step on the way to a new run can touch outside the roster: the flag that says that
a worker is polling, and the log. -/
structure StartEffect (engine : Engine) (advance : CallAdvance Call) : Prop where
  core_eq : advance.engine.core =
    { engine.core with inventoryActive := advance.engine.core.inventoryActive }
  control_eq : advance.engine.control = engine.control
  events_eq : ∃ notices : List Notice, advance.events = notices.map .noted
  next_eq : (∃ plan step, advance.next = .starting plan step) ∨
    ∃ answer, advance.next = .finished answer ∧ answer.isOfErrand = true

theorem starting_effect {plan : RunPlan} {step : StartStep} {advance : CallAdvance Call}
    (h : (starting plan step).step engine thread choice = some advance) :
    StartEffect engine advance := by
  obtain ⟨-, h⟩ | ⟨cause, -, -, h⟩ := starting_case h
  case inr =>
    cases h
    exact ⟨rfl, rfl, ⟨_, rfl⟩, .inl ⟨_, _, rfl⟩⟩
  cases step with
  | checking =>
      simp only [start, moveCore] at h
      split at h <;> cases h
      · exact ⟨rfl, rfl, ⟨_, rfl⟩, .inl ⟨_, _, rfl⟩⟩
      · exact ⟨rfl, rfl, ⟨_, rfl⟩, .inr ⟨_, rfl, rfl⟩⟩
  | unlocking | abandoning cause =>
      cases h
      exact ⟨rfl, rfl, ⟨_, rfl⟩, .inr ⟨_, rfl, rfl⟩⟩
  | _ =>
      simp only [start, moveRoster, moveCore] at h
      (try split at h) <;> cases h <;> exact ⟨rfl, rfl, ⟨_, rfl⟩, .inl ⟨_, _, rfl⟩⟩

theorem stop_core {step : StopStep} {advance : CallAdvance StopStep}
    (h : stop engine thread step = some advance) : advance.engine.core = engine.core := by
  cases step <;> simp only [stop, moveRoster, moveCore] at h <;> (try split at h) <;> cases h <;>
    rfl

/-- A step of an exchange within a call, where `going`, `ended` and `failed` hold the
ticket that the exchange holds. -/
theorem ask_waits {request : Request} {exchange : Exchange} {going : Exchange → Call}
    {ended : WaitOutcome → Call} {failed : Failure → Call} {advance : CallAdvance Call}
    (hgoing : ∀ exchange, (going exchange).ticket? = exchange.ticket?)
    (hended : ∀ outcome, (ended outcome).ticket? = none)
    (hfailed : ∀ failure, (failed failure).ticket? = none)
    (h : ask engine request exchange choice going ended failed = some advance) :
    WaitStep (if exchange = .opening then some request.command else none) false
        (engine.core.waits, exchange.ticket?)
        (advance.engine.core.waits, advance.next.ticket?) ∧
      advance.engine.core.receiver = engine.core.receiver := by
  rw [ask, Option.map_eq_some_iff] at h
  obtain ⟨inner, hinner, rfl⟩ := h
  have hwaits : WaitStep (if exchange = .opening then some request.command else none) false
      (engine.core.waits, exchange.ticket?) (inner.core.waits, inner.next.ticket?) :=
    Exchange.step_waits rfl hinner
  have hreceiver := Exchange.step_receiver hinner
  refine ⟨?_, by simpa using hreceiver⟩
  -- the call holds the ticket that the exchange goes on with
  cases hnext : inner.next with
  | ended outcome =>
      rw [hnext] at hwaits
      simpa [hended, Exchange.ticket?] using hwaits
  | failed failure =>
      rw [hnext] at hwaits
      simpa [hfailed, Exchange.ticket?] using hwaits
  | opening | checking ticket | writing ticket | awaiting ticket =>
      rw [hnext] at hwaits
      simpa [hgoing] using hwaits

/-- What a step of an operation does to the waits and the receiver. -/
theorem step_waits {call : Call} {advance : CallAdvance Call}
    (h : call.step engine thread choice = some advance) :
    WaitStep call.opens? call.clears (engine.core.waits, call.ticket?)
        (advance.engine.core.waits, advance.next.ticket?) ∧
      advance.engine.core.receiver = engine.core.receiver := by
  cases call with
  | asking request exchange | askingRegion exchange | askingPower region exchange
  | askingFirmware exchange =>
      have hstep := ask_waits (by intro; rfl) (by intro; rfl) (by intro; rfl) h
      cases exchange <;> exact hstep
  | starting plan step =>
      obtain ⟨hcore, -, -, hnext⟩ := starting_effect h
      rw [hcore]
      refine ⟨?_, rfl⟩
      obtain ⟨plan', step', hnext⟩ | ⟨answer, hnext, -⟩ := hnext <;> rw [hnext] <;>
        exact .idle _ _
  | stopping step | closingRun step =>
      cases choice <;> cases step <;>
        simp only [Call.step, moveCore, reduceCtorEq, Option.map_eq_some_iff] at h
      case proceed.stopped =>
        cases h
        exact ⟨.idle _ _, rfl⟩
      all_goals
        obtain ⟨inner, hinner, rfl⟩ := h
        have hcore := stop_core hinner
        dsimp only
        rw [hcore]
        exact ⟨.idle _ _, rfl⟩
  | writing request =>
      simp only [Call.step, Option.map_eq_some_iff] at h
      obtain ⟨inner, hwrite, rfl⟩ := h
      unfold Core.write at hwrite
      split at hwrite <;> cases choice <;> cases hwrite <;> exact ⟨.idle _ _, rfl⟩
  -- the last thing that closing the engine does
  | clearingWaits =>
      cases choice <;> cases h
      exact ⟨.clear _, rfl⟩
  | flushing =>
      simp only [Call.step] at h
      split at h <;> cases choice <;> cases h <;> exact ⟨.idle _ _, rfl⟩
  | _ =>
      cases choice <;> simp only [Call.step, moveCore, reduceCtorEq] at h <;>
        (try split at h) <;> cases h <;> exact ⟨.idle _ _, rfl⟩

end Call

namespace Worker

variable {core : Core} {worker : Worker} {choice : Choice} {advance : Advance Worker}

theorem ticket?_afterExchange (stage : PollStage) (inner : Advance Exchange) :
    (afterExchange stage worker inner).next.phase.ticket? = inner.next.ticket? := by
  unfold afterExchange
  cases inner.next with
  | ended outcome => cases outcome <;> cases stage <;> rfl
  | opening | checking | writing | awaiting | failed => cases stage <;> rfl

theorem core_afterExchange (stage : PollStage) (inner : Advance Exchange) :
    (afterExchange stage worker inner).core = inner.core := by
  unfold afterExchange
  cases inner.next with
  | ended outcome => cases outcome <;> cases stage <;> rfl
  | opening | checking | writing | awaiting | failed => cases stage <;> rfl

/-- Outside its exchanges a worker leaves the waits and the receiver alone. -/
theorem step_of_not_asking (hphase : ∀ stage exchange, worker.phase ≠ .asking stage exchange)
    (h : worker.step core choice = some advance) :
    advance.core.waits = core.waits ∧ advance.core.receiver = core.receiver ∧
      advance.next.phase.ticket? = none := by
  cases hwhere : worker.phase with
  | asking stage exchange => exact absurd hwhere (hphase stage exchange)
  | _ =>
      unfold step at h
      cases choice <;> simp only [hwhere, move, pause, commitCycle, reduceCtorEq] at h <;>
        (repeat' split at h) <;> cases h <;>
        exact ⟨rfl, rfl, rfl⟩

theorem step_asking {stage : PollStage} {exchange : Exchange}
    (hphase : worker.phase = .asking stage exchange) :
    worker.step core choice =
      (exchange.step (stage.question core.config) (stage.prepare ·) core choice).map
        (afterExchange stage worker) := by
  unfold step
  cases choice <;> simp only [hphase]

theorem step_of_asking {stage : PollStage} {exchange : Exchange}
    (hphase : worker.phase = .asking stage exchange) (h : worker.step core choice = some advance) :
    ∃ inner, exchange.step (stage.question core.config) (stage.prepare ·) core choice = some inner ∧
      advance = afterExchange stage worker inner := by
  rw [step_asking hphase, Option.map_eq_some_iff] at h
  obtain ⟨inner, hinner, rfl⟩ := h
  exact ⟨inner, hinner, rfl⟩

/-- What a step of a worker does to the waits. -/
theorem step_waits (h : worker.step core choice = some advance) :
    WaitStep (worker.phase.opens? core.config) false (core.waits, worker.phase.ticket?)
      (advance.core.waits, advance.next.phase.ticket?) := by
  by_cases hasking : ∃ stage exchange, worker.phase = .asking stage exchange
  · obtain ⟨stage, exchange, hphase⟩ := hasking
    obtain ⟨inner, hinner, rfl⟩ := step_of_asking hphase h
    have hwaits := Exchange.step_waits (by cases stage <;> rfl) hinner
    rw [ticket?_afterExchange, core_afterExchange, hphase]
    cases exchange <;> exact hwaits
  · have hphase : ∀ stage exchange, worker.phase ≠ .asking stage exchange :=
      fun stage exchange heq => hasking ⟨stage, exchange, heq⟩
    obtain ⟨hwaits, -, hticket⟩ := step_of_not_asking hphase h
    have hnone : worker.phase.ticket? = none ∧ worker.phase.opens? core.config = none := by
      cases hwhere : worker.phase with
      | asking stage exchange => exact absurd hwhere (hphase stage exchange)
      | _ => exact ⟨rfl, rfl⟩
    rw [hwaits, hticket, hnone.1, hnone.2]
    exact .idle _ _

/-- What a step of a worker does to the receiver: a poll resets the count before it asks
for it. -/
theorem step_receiver (h : worker.step core choice = some advance) :
    advance.core.receiver = core.receiver ∨
      advance.core.receiver =
        { core.receiver with session := core.receiver.session.setTagCount 0 } := by
  by_cases hasking : ∃ stage exchange, worker.phase = .asking stage exchange
  · obtain ⟨stage, exchange, hphase⟩ := hasking
    obtain ⟨inner, hinner, rfl⟩ := step_of_asking hphase h
    rw [core_afterExchange, Exchange.step_receiver hinner]
    split
    · cases stage with
      | count => exact .inr rfl
      | inventory | buffer => exact .inl rfl
    · exact .inl rfl
  · have hphase : ∀ stage exchange, worker.phase ≠ .asking stage exchange :=
      fun stage exchange heq => hasking ⟨stage, exchange, heq⟩
    exact .inl (step_of_not_asking hphase h).2.1

end Worker

end TagInventory
