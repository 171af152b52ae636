import TagInventory.Proofs.Engine.Shown
import TagInventory.Proofs.Engine.SingleWorker

/-!
# Following one thread

A caller or the control thread is in an operation, at some place, or in none
(`System.placeOf`).  `ActionStep` sorts the actions by what they do to the places:

* a thread moves on in its operation,
* a worker moves on in its run,
* a thread begins an operation, or is done with one,
* something else happens that no thread takes part in.

To one thread an action is a step of its own, a turn between two operations, or nothing at all
(`PlaceStep`).  A thread in the middle of an operation leaves it by its own steps only, so that
what is known of the steps of the operation is known of a run: `Measured` counts the steps that
are left and the frames that are still to be written.
-/

namespace TagInventory

theorem Thread.task_ne_worker (thread : Thread) (run : RunId) : thread.task ≠ .worker run := by
  cases thread <;> simp [task]

namespace Action

/-- The task that takes a step. -/
def task? : Action → Option Task
  | .step task _ => some task
  | _ => none

/-- Whether a caller begins to open the link. -/
def connects : Action → Bool
  | .begin _ .connect => true
  | _ => false

@[simp] theorem thread?_step (thread : Thread) (choice : Choice) :
    (Action.step thread.task choice).thread? = some thread := by
  cases thread <;> rfl

@[simp] theorem task?_step (task : Task) (choice : Choice) :
    (Action.step task choice).task? = some task := rfl

/-- The steps of the thread of an action are the action itself. -/
theorem task?_ne_of_thread?_ne {action : Action} {thread : Thread}
    (h : action.thread? ≠ some thread) : action.task? ≠ some thread.task := by
  intro htask
  cases action with
  | step task choice =>
      obtain rfl : task = thread.task := Option.some.inj htask
      exact h (thread?_step thread choice)
  | _ => cases htask

end Action

/-- The number of steps that a task takes. -/
def stepsOf (task : Task) (actions : List Action) : Nat :=
  actions.countP fun action => action.task? = some task

theorem stepsOf_cons_of_eq {task : Task} {action : Action} (h : action.task? = some task)
    (actions : List Action) : stepsOf task (action :: actions) = stepsOf task actions + 1 := by
  rw [stepsOf, List.countP_cons_of_pos (by simpa using h)]
  rfl

theorem stepsOf_cons_of_ne {task : Task} {action : Action} (h : action.task? ≠ some task)
    (actions : List Action) : stepsOf task (action :: actions) = stepsOf task actions := by
  rw [stepsOf, List.countP_cons_of_neg (by simpa using h)]
  rfl

namespace System

variable {system next : System} {action : Action} {events : List Event} {thread : Thread}

/-! ## Places -/

/-- The place of a thread in the operation that it began last. -/
def placeOf (system : System) : Thread → Option Call
  | .caller name => system.call? name
  | .control => system.handling.map Prod.snd

/-- A thread is in the middle of an operation. -/
def InOperation (system : System) (thread : Thread) : Prop :=
  ∃ call, system.placeOf thread = some call ∧ call.answer? = none

instance (system : System) (thread : Thread) : Decidable (system.InOperation thread) :=
  decidable_of_iff ((system.placeOf thread).any (·.answer?.isNone) = true) (by
    simp [InOperation, Option.any_eq_true])

/-- A thread begins no operation, and takes steps in the one that it is in. -/
def Busy (thread : Thread) (system : System) (action : Action) : Prop :=
  action.thread? = some thread → system.InOperation thread

instance (thread : Thread) (system : System) (action : Action) :
    Decidable (Busy thread system action) :=
  inferInstanceAs (Decidable (_ → _))

theorem placeOf_setCall_self (name : Nat) (call : Call) :
    (system.setCall name call).placeOf (.caller name) = some call :=
  call?_setCall_self system name call

theorem placeOf_setCall_of_ne {name : Nat} (call : Call) (h : thread ≠ .caller name) :
    (system.setCall name call).placeOf thread = system.placeOf thread := by
  cases thread with
  | control => rfl
  | caller other => exact call?_setCall_of_ne system call (by simpa using h)

/-- A caller that is not in the middle of an operation is free to begin one. -/
theorem not_inOperation_of_isFree {name : Nat} (h : system.isFree name = true) :
    ¬system.InOperation (.caller name) := by
  rintro ⟨call, hplace, hanswer⟩
  have hcall : system.call? name = some call := hplace
  rw [isFree, hcall] at h
  simp only [hanswer] at h
  cases h

/-! ## Actions -/

/-- What an action is to the threads. -/
inductive ActionStep (system : System) (action : Action) (next : System) (events : List Event) :
    Prop
  | carried (thread : Thread) (choice : Choice) (call : Call) (advance : CallAdvance Call)
      (haction : action = .step thread.task choice) (hplace : system.placeOf thread = some call)
      (hstep : call.step system.engine thread choice = some advance)
      (hengine : next.engine = advance.engine)
      (hnext : next.placeOf thread = some advance.next)
      (hothers : ∀ other, other ≠ thread → next.placeOf other = system.placeOf other)
      (hevents : events = advance.events)
  | worked (run : RunId) (choice : Choice) (worker : Worker) (advance : Advance Worker)
      (haction : action = .step (.worker run) choice)
      (hworker : system.roster.worker? run = some worker)
      (hstep : worker.step system.core choice = some advance)
      (hcore : next.core = advance.core)
      (hroster : next.roster = system.roster.setWorker run advance.next)
      (hplaces : next.placeOf = system.placeOf) (hevents : events = advance.events)
  | turned (thread : Thread) (hthread : action.thread? = some thread)
      (hfail : ∀ task cause, action ≠ .step task (.fail cause))
      (hbefore : ¬system.InOperation thread)
      (hafter : ∀ call, next.placeOf thread = some call → ∃ operation : Operation,
        call = operation.begin ∧ (operation = .connect → action.connects = true))
      (hothers : ∀ other, other ≠ thread → next.placeOf other = system.placeOf other)
      (hcore : next.core = system.core) (hroster : next.roster = system.roster)
      (hframes : framesOf events = [])
  | aside (hthread : action.thread? = none) (htask : action.task? = none)
      (hplaces : next.placeOf = system.placeOf) (hroster : next.roster = system.roster)
      (hframes : framesOf events = [])

private theorem actionStep_caller {name : Nat} {choice : Choice}
    (h : system.stepCaller name choice = some (next, events)) :
    ActionStep system (.step (.caller name) choice) next events := by
  obtain ⟨call, advance, hcall, hstep, rfl, rfl⟩ := stepCaller_case h
  refine .carried (.caller name) choice call advance rfl hcall hstep rfl
    (placeOf_setCall_self name _) ?_ rfl
  intro other hother
  rw [placeOf_setCall_of_ne _ hother]
  cases other <;> rfl

private theorem actionStep_control {choice : Choice}
    (h : system.stepControl choice = some (next, events)) :
    ActionStep system (.step .control choice) next events := by
  have hcallers {next : System} (hcalls : next.calls = system.calls) (other : Thread)
      (hother : other ≠ .control) : next.placeOf other = system.placeOf other := by
    cases other with
    | control => exact absurd rfl hother
    | caller name => simp only [placeOf, call?, hcalls]
  -- the control thread takes nothing but steps that go ahead when it is in no operation
  have hproceeds (hplace : ¬system.InOperation .control) (task : Task) (cause : String) :
      Action.step .control choice ≠ .step task (.fail cause) := by
    intro heq
    obtain ⟨-, rfl⟩ := Action.step.inj heq
    cases hhandling : system.handling with
    | none => simp [stepControl, hhandling] at h
    | some entry =>
        obtain ⟨event, call⟩ := entry
        cases hanswer : call.answer? with
        | none => exact hplace ⟨call, by rw [placeOf, hhandling]; rfl, hanswer⟩
        | some answer =>
            cases call with
            | finished => simp [stepControl, hhandling] at h
            | _ => cases hanswer
  cases stepControl_case h with
  | settled event answer hhandling =>
      have hbefore : ¬system.InOperation .control := by
        rintro ⟨call, hplace, hanswer⟩
        rw [placeOf, hhandling] at hplace
        cases hplace
        cases hanswer
      refine .turned .control rfl (hproceeds hbefore) hbefore ?_ (hcallers rfl) rfl rfl ?_
      · intro call hcall
        cases hcall
      · cases answer <;> rfl
  | moved event call advance hhandling hstep =>
      exact .carried .control choice call advance rfl (by rw [placeOf, hhandling]; rfl) hstep rfl
        rfl (hcallers rfl) rfl
  | taken event control hhandling =>
      have hbefore : ¬system.InOperation .control := by
        rintro ⟨call, hplace, -⟩
        rw [placeOf, hhandling] at hplace
        cases hplace
      refine .turned .control rfl (hproceeds hbefore) hbefore ?_ (hcallers rfl) rfl rfl rfl
      intro call hcall
      refine ⟨event.operation, (Option.some.inj hcall).symm.trans event.begin_operation.symm, ?_⟩
      intro hconnect
      cases event <;> cases hconnect
  | left control hhandling =>
      have hbefore : ¬system.InOperation .control := by
        rintro ⟨call, hplace, -⟩
        rw [placeOf, hhandling] at hplace
        cases hplace
      refine .turned .control rfl (hproceeds hbefore) hbefore ?_ (hcallers rfl) rfl rfl rfl
      intro call hcall
      simp only [placeOf, hhandling] at hcall
      cases hcall

/-- Every action is one of these. -/
theorem actionStep (h : system.step action = some (next, events)) :
    ActionStep system action next events := by
  have hstays {next : System} (hcalls : next.calls = system.calls)
      (hhandling : next.handling = system.handling) : next.placeOf = system.placeOf := by
    funext thread
    cases thread <;> simp only [placeOf, call?, hcalls, hhandling]
  cases action with
  | step task choice =>
      cases task with
      | caller name => exact actionStep_caller h
      | control => exact actionStep_control h
      | worker run =>
          obtain ⟨worker, advance, hworker, hstep, rfl, rfl⟩ := stepWorker_case h
          exact .worked run choice worker advance rfl hworker hstep rfl rfl (hstays rfl rfl) rfl
  | begin name operation =>
      simp only [step] at h
      split at h <;> cases h
      rename_i hfree
      refine .turned (.caller name) rfl (by simp) (not_inOperation_of_isFree hfree) ?_
        (fun other hother => placeOf_setCall_of_ne _ hother) rfl rfl ?_
      · intro call hcall
        rw [placeOf_setCall_self] at hcall
        refine ⟨operation, (Option.some.inj hcall).symm, ?_⟩
        rintro rfl
        rfl
      · cases operation with
        | execute code payload =>
            rw [Operation.events]
            cases Request.ofRaw code payload <;> rfl
        | _ => rfl
  | receive byte =>
      have hframes : framesOf events = [] := by
        simp only [step] at h
        split at h <;> cases h
        exact framesOf_of_notes (system.core.notes_receiveEvents byte)
      rw [step_receive h]
      exact .aside rfl rfl (hstays rfl rfl) rfl hframes
  | enqueue event =>
      cases h
      exact .aside rfl rfl (hstays rfl rfl) rfl rfl
  | tune tunable =>
      cases h
      exact .aside rfl rfl (hstays rfl rfl) rfl rfl
  | readFails | readerLeaves =>
      simp only [step] at h
      split at h <;> cases h
      exact .aside rfl rfl (hstays rfl rfl) rfl rfl

/-- What an action is to one thread. -/
inductive PlaceStep (system : System) (action : Action) (next : System) (events : List Event)
    (thread : Thread) : Prop
  | carried (choice : Choice) (call : Call) (advance : CallAdvance Call)
      (haction : action = .step thread.task choice) (hplace : system.placeOf thread = some call)
      (hstep : call.step system.engine thread choice = some advance)
      (hengine : next.engine = advance.engine)
      (hnext : next.placeOf thread = some advance.next) (hevents : events = advance.events)
  | turned (hthread : action.thread? = some thread) (hbefore : ¬system.InOperation thread)
      (hafter : ∀ call, next.placeOf thread = some call → ∃ operation : Operation,
        call = operation.begin ∧ (operation = .connect → action.connects = true))
  | stays (hthread : action.thread? ≠ some thread)
      (hsame : next.placeOf thread = system.placeOf thread)

/-- A thread moves on in its operation, begins one or is done with one, or stays where it is. -/
theorem placeStep (h : system.step action = some (next, events)) (thread : Thread) :
    PlaceStep system action next events thread := by
  cases actionStep h with
  | carried other choice call advance haction hplace hstep hengine hnext hothers hevents =>
      by_cases heq : thread = other
      · subst heq
        exact .carried choice call advance haction hplace hstep hengine hnext hevents
      · refine .stays ?_ (hothers thread heq)
        rw [haction, Action.thread?_step]
        exact fun hsome => heq (Option.some.inj hsome).symm
  | worked run choice worker advance haction _ _ _ _ hplaces =>
      refine .stays ?_ (by rw [hplaces])
      rw [haction]
      exact (Option.some_ne_none thread).symm
  | turned other hother _ hbefore hafter hothers =>
      by_cases heq : thread = other
      · subst heq
        exact .turned hother hbefore hafter
      · refine .stays ?_ (hothers thread heq)
        rw [hother]
        exact fun hsome => heq (Option.some.inj hsome).symm
  | aside hnone _ hplaces =>
      refine .stays ?_ (by rw [hplaces])
      rw [hnone]
      exact (Option.some_ne_none thread).symm

theorem isSome_step_of_place {call : Call} {choice : Choice}
    (hplace : system.placeOf thread = some call) (hanswer : call.answer? = none)
    (h : (call.step system.engine thread choice).isSome = true) :
    (system.step (.step thread.task choice)).isSome = true := by
  obtain ⟨advance, hadvance⟩ := Option.isSome_iff_exists.mp h
  cases thread with
  | caller name =>
      have hcall : system.call? name = some call := hplace
      show (system.stepCaller name choice).isSome = true
      rw [stepCaller, hcall, Option.bind_some, hadvance]
      rfl
  | control =>
      obtain ⟨⟨event, same⟩, hhandling, rfl⟩ := Option.map_eq_some_iff.mp hplace
      show (system.stepControl choice).isSome = true
      unfold stepControl
      rw [hhandling]
      dsimp only
      split
      · rename_i heq
        cases heq
        cases hanswer
      · rename_i heq
        cases heq
        rw [hadvance]
        rfl
      · rename_i heq
        cases heq

/-! ## What a task writes -/

/-- The frames that a task writes in a run, up to the first action that is not possible. -/
def writtenBy (task : Task) (system : System) : List Action → List Frame
  | [] => []
  | action :: actions =>
    match system.step action with
    | some (next, events) =>
      (if action.task? = some task then framesOf events else []) ++ next.writtenBy task actions
    | none => []

theorem writtenBy_cons_of_eq {task : Task} (hstep : system.step action = some (next, events))
    (htask : action.task? = some task) (actions : List Action) :
    system.writtenBy task (action :: actions) = framesOf events ++ next.writtenBy task actions := by
  rw [writtenBy, hstep]
  dsimp only
  rw [if_pos htask]

theorem writtenBy_cons_of_ne {task : Task} (hstep : system.step action = some (next, events))
    (htask : action.task? ≠ some task) (actions : List Action) :
    system.writtenBy task (action :: actions) = next.writtenBy task actions := by
  rw [writtenBy, hstep]
  dsimp only
  rw [if_neg htask, List.nil_append]

/-! ## Operations that come to an end -/

/-- Under an invariant, each step that a thread may take in its operation brings the end nearer.
`Place call left pending` says of a place that `left` steps are left, in which the frames
`pending` are written. -/
structure Measured (thread : Thread) (Inv : System → Prop) (allowed : System → Action → Prop)
    (Place : Call → Nat → List Frame → Prop) : Prop where
  keeps : ∀ {system action next events}, Inv system → allowed system action →
    system.step action = some (next, events) → Inv next
  nears : ∀ {system choice call left pending} {advance : CallAdvance Call}, Inv system →
    allowed system (.step thread.task choice) → Place call left pending →
      call.step system.engine thread choice = some advance →
        ∃ fewer later, left = fewer + 1 ∧ Place advance.next fewer later ∧
          framesOf advance.events ++ later = pending

/-- A thread that stays in its operation has taken the steps and written the frames by which it
is nearer to its end. -/
theorem Measured.run {Inv : System → Prop} {allowed : System → Action → Prop}
    {Place : Call → Nat → List Frame → Prop} (h : Measured thread Inv allowed Place)
    {start last : System} {actions : List Action} {log : List Event}
    (hrun : start.run actions = some (last, log)) (hbusy : start.Along (Busy thread) actions)
    (halong : start.Along allowed actions) (hstart : Inv start) {call : Call} {left : Nat}
    {pending : List Frame} (hcall : start.placeOf thread = some call)
    (hplace : Place call left pending) :
    Inv last ∧ ∃ reached fewer later, last.placeOf thread = some reached ∧
      Place reached fewer later ∧ start.writtenBy thread.task actions ++ later = pending ∧
      fewer + stepsOf thread.task actions = left := by
  induction actions generalizing start log call left pending with
  | nil =>
      cases hrun
      exact ⟨hstart, call, left, pending, hcall, hplace, rfl, rfl⟩
  | cons action actions ih =>
      obtain ⟨next, events, shown, hstep, hrest, -⟩ := run_cons_case hrun
      obtain ⟨hstays, hbusyRest⟩ := hbusy next events hstep
      obtain ⟨hallowed, halongRest⟩ := halong next events hstep
      have hnext := h.keeps hstart hallowed hstep
      cases placeStep hstep thread with
      | carried choice before advance haction hbefore hown hengine hafter hevents =>
          subst haction hevents
          rw [hcall] at hbefore
          cases hbefore
          obtain ⟨fewer, later, rfl, hnearer, hwritten⟩ := h.nears hstart hallowed hplace hown
          obtain ⟨hlast, reached, rest, least, hreached, hmore, hall, hcount⟩ :=
            ih hrest hbusyRest halongRest hnext hafter hnearer
          refine ⟨hlast, reached, rest, least, hreached, hmore, ?_, ?_⟩
          · rw [writtenBy_cons_of_eq hstep rfl, List.append_assoc, hall, hwritten]
          · rw [stepsOf_cons_of_eq rfl]
            omega
      | turned hthread hbefore => exact absurd (hstays hthread) hbefore
      | stays hthread hsame =>
          have htask := Action.task?_ne_of_thread?_ne hthread
          rw [writtenBy_cons_of_ne hstep htask, stepsOf_cons_of_ne htask]
          exact ih hrest hbusyRest halongRest hnext (hsame.trans hcall) hplace

end System

end TagInventory
