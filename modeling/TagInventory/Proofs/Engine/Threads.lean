import TagInventory.Engine.System
import TagInventory.Proofs.Engine.Roster

/-!
# What the actions of a system do

The steps of the threads, lifted to systems.  `TaskStep` says that a step of a thread
changes the table of waits as `WaitStep` says, its own ticket along with it, and no other
thread's ticket.  A byte is handled in one piece (`step_receive`), and everything else
leaves the waits, the receiver and the tickets alone (`step_of_quiet`).

`Along` says that every action of a run is taken in a system that allows it; invariants go
through runs by `Along.invariant` and `Reachable.invariant`.
-/

namespace TagInventory

namespace System

variable {system next : System} {events : List Event}

/-! ## Callers -/

@[simp] theorem call?_setCall_self (system : System) (name : Nat) (call : Call) :
    (system.setCall name call).call? name = some call := by
  simp [setCall, call?]

theorem call?_setCall_of_ne (system : System) {name other : Nat} (call : Call)
    (h : other ≠ name) : (system.setCall name call).call? other = system.call? other := by
  have hbeq : (other == name) = false := by simpa using h
  simp only [setCall, call?, List.lookup_cons, hbeq]
  exact lookup_filter_of_ne h system.calls

/-! ## The tickets of the threads -/

/-- The ticket that a thread holds. -/
def ticketOf (system : System) : Task → Option Ticket
  | .caller name => (system.call? name).bind Call.ticket?
  | .control => system.handling.bind fun entry => entry.2.ticket?
  | .worker run => (system.roster.worker? run).bind fun worker => worker.phase.ticket?

/-- The command for which the next step of a thread opens a wait. -/
def opens? (system : System) : Task → Option Command
  | .caller name => (system.call? name).bind Call.opens?
  | .control => system.handling.bind fun entry => entry.2.opens?
  | .worker run =>
    (system.roster.worker? run).bind fun worker => worker.phase.opens? system.core.config

/-- Whether the next step of a thread clears the table. -/
def clears (system : System) : Task → Bool
  | .caller name => (system.call? name).any Call.clears
  | .control => system.handling.any fun entry => entry.2.clears
  | .worker _ => false

end System

/-! ## Steps of a system -/

namespace System

variable {system next : System} {events : List Event} {choice : Choice}

theorem stepCaller_case {name : Nat} (h : system.stepCaller name choice = some (next, events)) :
    ∃ call advance, system.call? name = some call ∧
      call.step system.engine (.caller name) choice = some advance ∧
      next = { system with engine := advance.engine }.setCall name advance.next ∧
      events = advance.events := by
  rw [stepCaller, Option.bind_eq_some_iff] at h
  obtain ⟨call, hcall, h⟩ := h
  obtain ⟨advance, hadvance, heq⟩ := Option.map_eq_some_iff.mp h
  cases heq
  exact ⟨call, advance, hcall, hadvance, rfl, rfl⟩

theorem stepWorker_case {run : RunId} (h : system.stepWorker run choice = some (next, events)) :
    ∃ worker advance, system.roster.worker? run = some worker ∧
      worker.step system.core choice = some advance ∧
      next = { system with
        engine := { system.engine with
          core := advance.core
          roster := system.roster.setWorker run advance.next } } ∧
      events = advance.events := by
  rw [stepWorker, Option.bind_eq_some_iff] at h
  obtain ⟨worker, hworker, h⟩ := h
  obtain ⟨advance, hadvance, heq⟩ := Option.map_eq_some_iff.mp h
  cases heq
  exact ⟨worker, advance, hworker, hadvance, rfl, rfl⟩

/-- The steps of the control thread, one case for each. -/
inductive ControlStep (system : System) (choice : Choice) : System → List Event → Prop
  | settled (event : ControlEvent) (answer : Answer)
      (h : system.handling = some (event, .finished answer)) :
      ControlStep system choice { system with handling := none } (refusal event answer)
  | moved (event : ControlEvent) (call : Call) (advance : CallAdvance Call)
      (h : system.handling = some (event, call))
      (hstep : call.step system.engine .control choice = some advance) :
      ControlStep system choice
        { system with engine := advance.engine, handling := some (event, advance.next) }
        advance.events
  | taken (event : ControlEvent) (control : ControlState) (h : system.handling = none)
      (hqueue : system.engine.control.queue = event :: control.queue)
      (hrunning : control.running = system.engine.control.running) :
      ControlStep system choice
        { system with
          engine := { system.engine with control := control }
          handling := some (event, event.begin) }
        [.noted (.controlReceived event)]
  | left (control : ControlState) (h : system.handling = none)
      (hqueue : control.queue = system.engine.control.queue) (hleft : control.running = false) :
      ControlStep system choice
        { system with engine := { system.engine with control := control } }
        [.noted .controlStopped]

theorem stepControl_case (h : system.stepControl choice = some (next, events)) :
    ControlStep system choice next events := by
  unfold stepControl at h
  dsimp only at h
  split at h
  · rename_i event answer hhandling
    split at h <;> cases h
    exact .settled event answer hhandling
  · rename_i event call _ hhandling
    obtain ⟨advance, hadvance, heq⟩ := Option.map_eq_some_iff.mp h
    cases heq
    exact .moved event call advance hhandling hadvance
  · rename_i hhandling
    split at h
    · rename_i hqueue
      split at h <;> cases h
      exact .taken _ _ hhandling hqueue rfl
    · split at h <;> cases h
      exact .left _ hhandling rfl rfl
    · cases h

/-! ## The waits and the receiver -/

/-- What a step of a thread does to the waits, to the tickets and to the receiver. -/
structure TaskStep (system : System) (task : Task) (next : System) : Prop where
  waits : WaitStep (system.opens? task) (system.clears task)
    (system.core.waits, system.ticketOf task) (next.core.waits, next.ticketOf task)
  others : ∀ other, other ≠ task → next.ticketOf other = system.ticketOf other
  receiver : next.core.receiver = system.core.receiver ∨
    next.core.receiver =
      { system.core.receiver with session := system.core.receiver.session.setTagCount 0 }

theorem ticketOf_caller {name : Nat} {call : Call} (h : system.call? name = some call) :
    system.ticketOf (.caller name) = call.ticket? := by
  simp [ticketOf, h]

theorem ticketOf_control {event : ControlEvent} {call : Call}
    (h : system.handling = some (event, call)) : system.ticketOf .control = call.ticket? := by
  simp [ticketOf, h]

theorem ticketOf_worker (run : RunId) :
    system.ticketOf (.worker run) = system.roster.ticketOf run := rfl

private theorem step_caller {name : Nat} (h : system.stepCaller name choice = some (next, events)) :
    TaskStep system (.caller name) next := by
  obtain ⟨call, advance, hcall, hstep, rfl, -⟩ := stepCaller_case h
  obtain ⟨hwaits, hreceiver⟩ := Call.step_waits hstep
  obtain ⟨hruns, -⟩ := Call.step_runs hstep
  refine ⟨?_, ?_, .inl hreceiver⟩
  · have hopens : system.opens? (.caller name) = call.opens? := by simp [opens?, hcall]
    have hclears : system.clears (.caller name) = call.clears := by simp [clears, hcall]
    rw [hopens, hclears, ticketOf_caller hcall,
      ticketOf_caller (call?_setCall_self _ name advance.next)]
    exact hwaits
  · intro other hother
    cases other with
    | caller other =>
        have hne : other ≠ name := by simpa using hother
        simp only [ticketOf, call?_setCall_of_ne _ _ hne]
        rfl
    | control => rfl
    | worker run => exact hruns.ticketOf_roster run

private theorem step_control (h : system.stepControl choice = some (next, events)) :
    TaskStep system .control next := by
  cases stepControl_case h with
  | settled event answer hhandling =>
      refine ⟨?_, ?_, .inl rfl⟩
      · simp only [opens?, clears, ticketOf, hhandling]
        exact .idle _ _
      · intro other hother
        cases other with
        | control => exact absurd rfl hother
        | caller | worker => rfl
  | moved event call advance hhandling hstep =>
      obtain ⟨hwaits, hreceiver⟩ := Call.step_waits hstep
      obtain ⟨hruns, -⟩ := Call.step_runs hstep
      refine ⟨?_, ?_, .inl hreceiver⟩
      · have hopens : system.opens? .control = call.opens? := by simp [opens?, hhandling]
        have hclears : system.clears .control = call.clears := by simp [clears, hhandling]
        rw [hopens, hclears, ticketOf_control hhandling, ticketOf_control rfl]
        exact hwaits
      · intro other hother
        cases other with
        | control => exact absurd rfl hother
        | caller name => rfl
        | worker run => exact hruns.ticketOf_roster run
  | taken event control hhandling =>
      refine ⟨?_, ?_, .inl rfl⟩
      · -- an event is taken without a ticket
        have hticket : event.begin.ticket? = none := by cases event <;> rfl
        simp only [opens?, clears, ticketOf, hhandling, Option.bind_some, hticket]
        exact .idle _ _
      · intro other hother
        cases other with
        | control => exact absurd rfl hother
        | caller | worker => rfl
  | left control hhandling =>
      refine ⟨?_, ?_, .inl rfl⟩
      · simp only [opens?, clears, ticketOf, hhandling]
        exact .idle _ _
      · intro other hother
        cases other with
        | control => exact absurd rfl hother
        | caller | worker => rfl

private theorem step_worker {run : RunId}
    (h : system.stepWorker run choice = some (next, events)) :
    TaskStep system (.worker run) next := by
  obtain ⟨worker, advance, hworker, hstep, rfl, -⟩ := stepWorker_case h
  -- only the worker itself moves in the list of workers
  have hset := fun other =>
    Roster.ticketOf_setWorker run other advance.next (by rw [hworker]; rfl)
  refine ⟨?_, ?_, Worker.step_receiver hstep⟩
  · have hopens : system.opens? (.worker run) = worker.phase.opens? system.core.config := by
      simp [opens?, hworker]
    have hbefore : system.ticketOf (.worker run) = worker.phase.ticket? := by
      simp [ticketOf, hworker]
    rw [hopens, hbefore, ticketOf_worker]
    have hafter : (system.roster.setWorker run advance.next).ticketOf run =
        advance.next.phase.ticket? := (hset run).trans (if_pos rfl)
    have hwaits := Worker.step_waits hstep
    rw [← hafter] at hwaits
    exact hwaits
  · intro other hother
    cases other with
    | caller | control => rfl
    | worker other =>
        have hne : other ≠ run := by simpa using hother
        exact (hset other).trans (if_neg hne)

/-- A step of a thread changes the table and its own ticket as `WaitStep` says, no other
ticket, and nothing of the receiver but the count that a poll resets. -/
theorem step_task {task : Task} (h : system.step (.step task choice) = some (next, events)) :
    TaskStep system task next := by
  cases task with
  | caller name => exact step_caller h
  | control => exact step_control h
  | worker run => exact step_worker h

end System

/-- Whether an action is neither a step of a thread nor a byte. -/
def Action.isQuiet : Action → Bool
  | .step _ _ | .receive _ => false
  | _ => true

theorem Operation.ticket?_begin (operation : Operation) : operation.begin.ticket? = none := by
  cases operation with
  | execute code payload | executeAndWait code payload =>
      simp only [begin, beginRaw]
      split <;> rfl
  | _ => rfl

namespace System

variable {system next : System} {events : List Event}

theorem step_of_quiet {action : Action} (hquiet : action.isQuiet = true)
    (h : system.step action = some (next, events)) :
    next.core.waits = system.core.waits ∧ next.core.receiver = system.core.receiver ∧
      ∀ task, next.ticketOf task = system.ticketOf task := by
  cases action with
  | step | receive => cases hquiet
  | begin name operation =>
      simp only [step] at h
      split at h <;> cases h
      rename_i hfree
      refine ⟨rfl, rfl, ?_⟩
      intro task
      cases task with
      | control | worker => rfl
      | caller other =>
          by_cases hother : other = name
          · subst hother
            -- a caller that may begin an operation is in none
            have hold : (system.call? other).bind Call.ticket? = none := by
              unfold isFree at hfree
              split at hfree <;> rename_i hcall
              · rename_i call
                cases call <;> simp only [Call.answer?, reduceCtorEq, Option.isSome_none] at hfree
                simp [hcall, Call.ticket?, Call.exchange?]
              · simp [hcall]
            simp [ticketOf, hold, Operation.ticket?_begin]
          · simp [ticketOf, call?_setCall_of_ne _ _ hother]
  | enqueue | tune =>
      cases h
      exact ⟨by first | rfl | (rename_i tunable; cases tunable <;> rfl),
        by first | rfl | (rename_i tunable; cases tunable <;> rfl), fun task => rfl⟩
  | readFails | readerLeaves =>
      simp only [step] at h
      split at h <;> cases h
      exact ⟨rfl, rfl, fun task => rfl⟩

theorem step_receive {byte : UInt8} (h : system.step (.receive byte) = some (next, events)) :
    next = system.setCore (system.core.receive byte) := by
  simp only [step] at h
  split at h <;> cases h
  rfl

/-! ## Runs -/

/-- Every action that is taken is allowed in the system in which it is taken.  A run ends
with the first action that is not possible. -/
def Along (allowed : System → Action → Prop) (system : System) : List Action → Prop
  | [] => True
  | action :: actions =>
    ∀ next events, system.step action = some (next, events) →
      allowed system action ∧ next.Along allowed actions

/-- A run is checked by carrying it out. -/
instance decidableAlong (allowed : System → Action → Prop)
    [∀ system action, Decidable (allowed system action)] (system : System) :
    (actions : List Action) → Decidable (system.Along allowed actions)
  | [] => .isTrue trivial
  | action :: actions =>
    match hstep : system.step action with
    | none => .isTrue (by
        intro next events hnext
        rw [hstep] at hnext
        cases hnext)
    | some (next, events) =>
      have := decidableAlong allowed next actions
      decidable_of_iff (allowed system action ∧ next.Along allowed actions) (by
        constructor
        · intro h other shown hother
          rw [hstep] at hother
          cases hother
          exact h
        · intro h
          exact h next events hstep)

/-- A property holds at every moment of a run. -/
def Always (P : System → Prop) (system : System) : List Action → Prop
  | [] => P system
  | action :: actions =>
    P system ∧ ∀ next events, system.step action = some (next, events) → next.Always P actions

theorem Always.head {P : System → Prop} {actions : List Action} (h : system.Always P actions) :
    P system := by
  cases actions with
  | nil => exact h
  | cons action actions => exact h.1

theorem run_cons_case {last : System} {action : Action} {actions : List Action} {log : List Event}
    (h : system.run (action :: actions) = some (last, log)) :
    ∃ next events later, system.step action = some (next, events) ∧
      next.run actions = some (last, later) ∧ log = events ++ later := by
  rw [run_cons, Option.bind_eq_some_iff] at h
  obtain ⟨⟨next, events⟩, hstep, h⟩ := h
  obtain ⟨⟨final, later⟩, hrun, heq⟩ := Option.map_eq_some_iff.mp h
  cases heq
  exact ⟨next, events, later, hstep, hrun, rfl⟩

theorem run_singleton {action : Action} (h : system.step action = some (next, events)) :
    system.run [action] = some (next, events) := by
  rw [run_cons, h]
  simp

theorem run_append {first second : List Action} {middle last : System} {log later : List Event}
    (hfirst : system.run first = some (middle, log))
    (hsecond : middle.run second = some (last, later)) :
    system.run (first ++ second) = some (last, log ++ later) := by
  induction first generalizing system log with
  | nil =>
      cases hfirst
      exact hsecond
  | cons action first ih =>
      obtain ⟨next, events, log', hstep, hrun, rfl⟩ := run_cons_case hfirst
      rw [List.cons_append, run_cons, hstep]
      simp [ih hrun]

theorem run_concat_case {last : System} {action : Action} {actions : List Action}
    {log : List Event} (h : system.run (actions ++ [action]) = some (last, log)) :
    ∃ middle earlier events, system.run actions = some (middle, earlier) ∧
      middle.step action = some (last, events) ∧ log = earlier ++ events := by
  induction actions generalizing system log with
  | nil =>
      obtain ⟨next, events, later, hstep, hrest, rfl⟩ := run_cons_case h
      cases hrest
      exact ⟨system, [], events, rfl, hstep, List.append_nil events⟩
  | cons first actions ih =>
      obtain ⟨next, shown, later, hstep, hrest, rfl⟩ := run_cons_case h
      obtain ⟨middle, earlier, events, hrun, hlast, rfl⟩ := ih hrest
      refine ⟨middle, shown ++ earlier, events, ?_, hlast, ?_⟩
      · simp [run_cons, hstep, hrun]
      · rw [List.append_assoc]

theorem Always.last {P : System → Prop} {actions : List Action} {last : System}
    {log : List Event} (h : system.Always P actions)
    (hrun : system.run actions = some (last, log)) :
    P last := by
  induction actions generalizing system log with
  | nil =>
      cases hrun
      exact h
  | cons action actions ih =>
      obtain ⟨next, events, later, hstep, hrest, rfl⟩ := run_cons_case hrun
      exact ih (h.2 next events hstep) hrest

/-- The system after a run whose actions are all possible. -/
def after (system : System) (actions : List Action) : System :=
  ((system.run actions).map Prod.fst).getD system

theorem run_after (system : System) (actions : List Action)
    (h : (system.run actions).isSome = true) :
    ∃ log, system.run actions = some (system.after actions, log) := by
  obtain ⟨⟨last, log⟩, hrun⟩ := Option.isSome_iff_exists.mp h
  refine ⟨log, ?_⟩
  rw [after, hrun]
  rfl

/-- What holds at first and is preserved by every allowed step holds after the run. -/
theorem Along.invariant {allowed : System → Action → Prop} {P : System → Prop}
    (hstep : ∀ {system next action events}, P system → allowed system action →
      system.step action = some (next, events) → P next)
    {actions : List Action} {last : System} {log : List Event}
    (halong : system.Along allowed actions) (hrun : system.run actions = some (last, log))
    (h : P system) : P last := by
  induction actions generalizing system log with
  | nil =>
      cases hrun
      exact h
  | cons action actions ih =>
      obtain ⟨next, events, later, hnext, hrest, rfl⟩ := run_cons_case hrun
      obtain ⟨hallowed, halong⟩ := halong next events hnext
      exact ih halong hrest (hstep h hallowed hnext)

/-- What is shown of each action by an invariant holds along the run. -/
theorem Along.of_invariant {allowed shown : System → Action → Prop} {P : System → Prop}
    (hstep : ∀ {system next action events}, P system → allowed system action →
      system.step action = some (next, events) → P next ∧ shown system action)
    {actions : List Action} (halong : system.Along allowed actions) (h : P system) :
    system.Along shown actions := by
  induction actions generalizing system with
  | nil => trivial
  | cons action actions ih =>
      intro next events hnext
      obtain ⟨hallowed, halong⟩ := halong next events hnext
      obtain ⟨hinv, hshown⟩ := hstep h hallowed hnext
      exact ⟨hshown, ih halong hinv⟩

theorem Along.and {allowed other : System → Action → Prop} {actions : List Action}
    (h : system.Along allowed actions) (hother : system.Along other actions) :
    system.Along (fun system action => allowed system action ∧ other system action) actions := by
  induction actions generalizing system with
  | nil => trivial
  | cons action actions ih =>
      intro next events hnext
      obtain ⟨hallowed, halong⟩ := h next events hnext
      obtain ⟨hboth, hrest⟩ := hother next events hnext
      exact ⟨⟨hallowed, hboth⟩, ih halong hrest⟩

/-- Actions that are allowed everywhere are allowed along the run. -/
theorem along_of_forall {allowed : System → Action → Prop} {actions : List Action}
    (h : ∀ action ∈ actions, ∀ system, allowed system action) (system : System) :
    system.Along allowed actions := by
  induction actions generalizing system with
  | nil => trivial
  | cons action actions ih =>
      intro next events _
      refine ⟨h action (List.mem_cons_self ..) system, ?_⟩
      exact ih (fun later hlater => h later (List.mem_cons_of_mem _ hlater)) next

theorem along_true (system : System) (actions : List Action) :
    system.Along (fun _ _ => True) actions :=
  along_of_forall (fun _ _ _ => trivial) system

namespace Reachable

variable {config : EngineConfig} {connected : Bool}

/-- What holds initially and is preserved by every step holds in every reachable system. -/
theorem invariant {P : System → Prop} (hinitial : P (initial config connected))
    (hstep : ∀ {system next action events}, P system →
      system.step action = some (next, events) → P next)
    (h : Reachable config connected system) : P system := by
  obtain ⟨actions, events, hrun⟩ := h
  exact (along_true _ actions).invariant (fun hinv _ => hstep hinv) hrun hinitial

theorem run {actions : List Action} {last : System} {log : List Event}
    (h : Reachable config connected system) (hrun : system.run actions = some (last, log)) :
    Reachable config connected last := by
  obtain ⟨before, events, hbefore⟩ := h
  exact ⟨before ++ actions, events ++ log, run_append hbefore hrun⟩

theorem step {action : Action} {next : System} {events : List Event}
    (h : Reachable config connected system) (hstep : system.step action = some (next, events)) :
    Reachable config connected next :=
  h.run (run_singleton hstep)

end Reachable

end System

end TagInventory
