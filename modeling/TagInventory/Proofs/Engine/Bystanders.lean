import TagInventory.Proofs.Engine.Invariant
import TagInventory.Proofs.Engine.Turns

/-!
# What the others do to a run

A run is carried out by its worker.  Everybody else leaves it alone but for two things: a
stop may be requested of its worker (`Worker.Spared`), and the waits, the flags and the
tunables may change (`Core.Leaves`).  Only another worker touches the views, and only another
worker reports changes.
-/

namespace TagInventory

/-- A report of tags that came or went. -/
def Report.isChange : Report → Bool
  | change .. => true
  | contents _ | occurrences _ => false

/-- The changes among what was shown. -/
def changesOf (events : List Event) : List Report :=
  (reportsOf events).filter Report.isChange

@[simp] theorem changesOf_append (first second : List Event) :
    changesOf (first ++ second) = changesOf first ++ changesOf second := by
  rw [changesOf, reportsOf_append, List.filter_append, ← changesOf, ← changesOf]

/-- The views, the receiver and the configuration are as before. -/
structure Core.Leaves (core after : Core) : Prop where
  config_eq : after.config = core.config
  tags_eq : after.tags = core.tags
  receiver_eq : after.receiver = core.receiver

theorem Core.Leaves.refl (core : Core) : core.Leaves core := ⟨rfl, rfl, rfl⟩

/-- A worker goes on from where it is, and may have been asked to stop. -/
def Worker.Spared (worker after : Worker) : Prop :=
  after = worker ∨ after = { worker with stopRequested := true }

namespace Worker.Spared

variable {worker after : Worker}

theorem phase_eq (h : worker.Spared after) : after.phase = worker.phase := by
  rcases h with rfl | rfl <;> rfl

theorem plan_eq (h : worker.Spared after) : after.plan = worker.plan := by
  rcases h with rfl | rfl <;> rfl

theorem attempts_eq (h : worker.Spared after) : after.attempts = worker.attempts := by
  rcases h with rfl | rfl <;> rfl

end Worker.Spared

/-! ## Operations -/

namespace Call

/-- The contents that are reported in the next step. -/
def contents? : Call → Option Counts
  | deliveringContents counts => some counts
  | _ => none

variable {engine : Engine} {thread : Thread} {choice : Choice}

private theorem ask_leaves {request : Request} {exchange : Exchange} {going : Exchange → Call}
    {ended : WaitOutcome → Call} {failed : Failure → Call} {advance : CallAdvance Call}
    (h : ask engine request exchange choice going ended failed = some advance) :
    engine.core.Leaves advance.engine.core ∧ reportsOf advance.events = [] := by
  rw [ask, Option.map_eq_some_iff] at h
  obtain ⟨inner, hinner, rfl⟩ := h
  cases Exchange.step_case hinner <;> exact ⟨⟨rfl, rfl, rfl⟩, rfl⟩

private theorem stop_leaves {step : StopStep} {advance : CallAdvance StopStep}
    (h : stop engine thread step = some advance) :
    engine.core.Leaves advance.engine.core ∧ reportsOf advance.events = [] := by
  cases step <;> simp only [stop, moveRoster, moveCore] at h <;> (try split at h) <;> cases h <;>
    exact ⟨⟨rfl, rfl, rfl⟩, rfl⟩

/-- An operation leaves the views alone, and reports the contents that it has to report. -/
theorem step_leaves {call : Call} {advance : CallAdvance Call}
    (h : call.step engine thread choice = some advance) :
    engine.core.Leaves advance.engine.core ∧
      reportsOf advance.events = call.contents?.toList.map .contents := by
  cases call with
  | asking request exchange | askingRegion exchange | askingPower region exchange
  | askingFirmware exchange => exact ask_leaves h
  | starting plan step =>
      obtain ⟨hcore, -, ⟨notices, hevents⟩, -⟩ := starting_effect h
      rw [hcore, hevents]
      exact ⟨⟨rfl, rfl, rfl⟩, reportsOf_noted notices⟩
  | stopping step | closingRun step =>
      cases choice <;> cases step <;>
        simp only [Call.step, moveCore, reduceCtorEq, Option.map_eq_some_iff] at h
      case proceed.stopped =>
        cases h
        exact ⟨.refl _, rfl⟩
      all_goals
        obtain ⟨inner, hinner, rfl⟩ := h
        exact stop_leaves hinner
  | writing request =>
      simp only [Call.step, Option.map_eq_some_iff] at h
      obtain ⟨inner, hwrite, rfl⟩ := h
      unfold Core.write at hwrite
      split at hwrite <;> cases choice <;> cases hwrite <;> exact ⟨⟨rfl, rfl, rfl⟩, rfl⟩
  | flushing =>
      simp only [Call.step] at h
      split at h <;> cases choice <;> cases h <;> exact ⟨.refl _, rfl⟩
  | readingSettings fresh =>
      cases choice <;> simp only [Call.step, moveCore, reduceCtorEq] at h
      cases h
      cases fresh <;> exact ⟨.refl _, rfl⟩
  | _ =>
      cases choice <;> simp only [Call.step, moveCore, reduceCtorEq] at h <;>
        (try split at h) <;> cases h <;> exact ⟨⟨rfl, rfl, rfl⟩, rfl⟩

theorem step_changes {call : Call} {advance : CallAdvance Call}
    (h : call.step engine thread choice = some advance) : changesOf advance.events = [] := by
  rw [changesOf, (step_leaves h).2]
  cases call.contents? <;> rfl

theorem RunStep.spared {roster after : Roster} {before next : Grip}
    (h : RunStep thread roster before next after) {run : RunId} {worker : Worker}
    (hworker : roster.worker? run = some worker) :
    ∃ same, after.worker? run = some same ∧ worker.Spared same := by
  cases h with
  | startRequested old | stopRequested old =>
      refine ⟨if run = old then { worker with stopRequested := true } else worker, ?_, ?_⟩
      · rw [Roster.worker?_requestStop, hworker, Option.map_some]
      · by_cases heq : run = old
        · rw [if_pos heq]
          exact .inr rfl
        · rw [if_neg heq]
          exact .inl rfl
  | spawned plan =>
      obtain ⟨hlt, -⟩ := List.getElem?_eq_some_iff.mp hworker
      have hkept : (roster.workers ++ [.spawn plan])[run]? = some worker := by
        rw [List.getElem?_append_left hlt]
        exact hworker
      exact ⟨worker, hkept, .inl rfl⟩
  | _ => exact ⟨worker, hworker, .inl rfl⟩

end Call

/-! ## Actions -/

namespace System

variable {system next : System} {action : Action} {events : List Event} {run : RunId}
  {worker : Worker}

/-- Somebody else has their turn: neither a worker nor the reader. -/
theorem step_of_bystander (hworker : ∀ run choice, action ≠ .step (.worker run) choice)
    (hbyte : ∀ byte, action ≠ .receive byte) (h : system.step action = some (next, events)) :
    system.core.Leaves next.core ∧ changesOf events = [] ∧
      ∀ {run worker}, system.roster.worker? run = some worker →
        ∃ same, next.roster.worker? run = some same ∧ worker.Spared same := by
  have hstays {run worker} (hmember : system.roster.worker? run = some worker) :
      ∃ same, system.roster.worker? run = some same ∧ worker.Spared same :=
    ⟨worker, hmember, .inl rfl⟩
  cases action with
  | step task choice =>
      cases task with
      | worker run => exact absurd rfl (hworker run choice)
      | caller name =>
          obtain ⟨call, advance, -, hstep, rfl, rfl⟩ := stepCaller_case h
          exact ⟨(Call.step_leaves hstep).1, Call.step_changes hstep,
            (Call.step_runs hstep).1.spared⟩
      | control =>
          cases stepControl_case h with
          | settled event answer =>
              refine ⟨.refl _, ?_, hstays⟩
              cases answer <;> rfl
          | moved event call advance hhandling hstep =>
              exact ⟨(Call.step_leaves hstep).1, Call.step_changes hstep,
                (Call.step_runs hstep).1.spared⟩
          | taken event control => exact ⟨.refl _, rfl, hstays⟩
          | left control => exact ⟨.refl _, rfl, hstays⟩
  | receive byte => exact absurd rfl (hbyte byte)
  | begin name operation =>
      simp only [step] at h
      split at h <;> cases h
      refine ⟨.refl _, ?_, hstays⟩
      cases operation with
      | execute code payload =>
          rw [Operation.events]
          cases Request.ofRaw code payload <;> rfl
      | _ => rfl
  | enqueue event =>
      cases h
      exact ⟨.refl _, rfl, hstays⟩
  | readFails cause | readerLeaves =>
      simp only [step] at h
      split at h <;> cases h
      exact ⟨⟨rfl, rfl, rfl⟩, rfl, hstays⟩
  | tune tunable =>
      cases h
      cases tunable <;> exact ⟨⟨rfl, rfl, rfl⟩, rfl, hstays⟩

end System

end TagInventory
