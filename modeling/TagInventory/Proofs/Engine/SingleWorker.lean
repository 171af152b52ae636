import TagInventory.Proofs.Engine.Slot

/-!
# When there is one worker at most

Starting a run waits, under the lock of the slot, until the run before is over.  Stopping
gives the lock back first and waits afterwards.  A run that is being stopped is therefore
in nobody's way: another thread finds the slot empty and spawns a second worker, and the
first one, when it ends, takes down the flag of the second.

The main statement says exactly which interleavings are free of this.  They are those in
which a thread comes to spawn a worker only while no thread has a live run in hand that was
taken out of the slot, and in which the flag that was raised for the worker is still up when it
is spawned.  A worker that cannot be spawned has the flag taken down, too, so that a run that is
live at that moment is left without it.

## Strategy

`SlotStep` lists what an action does to the roster, to the places of the threads and to
the flag.  With the invariant `Guarded`, a thread about to spawn knows that the slot is
empty and that no other thread is at work on it, so that a live run can only be in the hand
of a thread that stops it.  One step keeps the property exactly when it is orderly
(`alone_step_iff`), and the statement about runs is an induction.
-/

namespace TagInventory

/-! ## Where the threads are -/

/-- The task of a thread. -/
def Thread.task : Thread → Task
  | .caller name => .caller name
  | .control => .control

/-- The thread whose operation an action begins or moves on. -/
def Action.thread? : Action → Option Thread
  | .begin name _ => some (.caller name)
  | .step (.caller name) _ => some (.caller name)
  | .step .control _ => some .control
  | _ => none

namespace Call

theorem grip_begin (operation : Operation) :
    operation.begin.grip = .free ∨ operation.begin.grip = .starting .checking ∨
      operation.begin.grip = .stopping .locking := by
  cases operation with
  | execute code payload | executeAndWait code payload =>
      refine .inl ?_
      simp only [Operation.begin, beginRaw]
      split <;> rfl
  | startContinuous | runBounded | findBrokenLabels | startIdle => exact .inr (.inl rfl)
  | stop => exact .inr (.inr rfl)
  | connect | runClosing | radioSettings | reportContents | close => exact .inl rfl

end Call

namespace Worker

variable {core : Core} {worker : Worker} {choice : Choice} {advance : Advance Worker}

/-- A worker takes the flag down when it ends, and ends once. -/
theorem step_active (h : worker.step core choice = some advance) :
    worker.exited = false ∧
      advance.core.inventoryActive = (core.inventoryActive && !advance.next.exited) := by
  have hgoing {phase : WorkerPhase} (hphase : worker.phase = phase) (hne : phase ≠ .exited) :
      worker.exited = false := by
    rw [exited, hphase]
    simpa using hne
  cases hwhere : worker.phase with
  | asking stage exchange =>
      refine ⟨hgoing hwhere (by simp), ?_⟩
      obtain ⟨inner, hinner, rfl⟩ := step_of_asking hwhere h
      have hactive : inner.core.inventoryActive = core.inventoryActive := by
        cases Exchange.step_case hinner with
        | opened => cases stage <;> rfl
        | _ => rfl
      rw [core_afterExchange, hactive]
      unfold afterExchange
      cases inner.next with
      | ended outcome => cases outcome <;> cases stage <;> simp [exited, goto]
      | opening | checking | writing | awaiting | failed => cases stage <;> simp [exited, goto]
  | exited =>
      unfold step at h
      cases choice <;> simp [hwhere] at h
  | _ =>
      refine ⟨hgoing hwhere (by simp), ?_⟩
      unfold step at h
      cases choice <;>
        simp only [hwhere, move, pause, commitCycle, Core.tagOperation, reduceCtorEq] at h <;>
        (repeat' split at h) <;> cases h <;>
        simp [exited, goto]

end Worker

namespace System

variable {system next : System} {events : List Event} {action : Action}

/-- What a thread has to do with the slot. -/
def gripOf (system : System) : Thread → Grip
  | .caller name => ((system.call? name).map Call.grip).getD .free
  | .control => (system.handling.map fun entry => entry.2.grip).getD .free

/-- What an action does to the roster, to the places of the threads and to the flag. -/
inductive SlotStep (system : System) (action : Action) (next : System) : Prop
  | operation (thread : Thread) (hthread : action.thread? = some thread)
      (hstep : Call.RunStep thread system.roster (system.gripOf thread) (next.gripOf thread)
        next.roster)
      (hothers : ∀ other, other ≠ thread → next.gripOf other = system.gripOf other)
      (hactive : next.core.inventoryActive =
        Call.flagAfter system.core.inventoryActive (system.gripOf thread) (next.gripOf thread))
      (hspawns : system.gripOf thread = .starting .spawning →
        (action = .step thread.task .proceed ↔
          ∃ run, next.gripOf thread = .starting (.storing run)))
  | work (run : RunId) (worker after : Worker) (hthread : action.thread? = none)
      (hworker : system.roster.worker? run = some worker) (hlive : worker.exited = false)
      (hroster : next.roster = system.roster.setWorker run after)
      (hgrips : next.gripOf = system.gripOf)
      (hactive : next.core.inventoryActive = (system.core.inventoryActive && !after.exited))
  | elsewhere (hthread : action.thread? = none) (hroster : next.roster = system.roster)
      (hgrips : next.gripOf = system.gripOf)
      (hactive : next.core.inventoryActive = system.core.inventoryActive)

theorem gripOf_caller {name : Nat} {call : Call} (h : system.call? name = some call) :
    system.gripOf (.caller name) = call.grip := by
  simp [gripOf, h]

theorem gripOf_setCall_self (name : Nat) (call : Call) :
    (system.setCall name call).gripOf (.caller name) = call.grip :=
  gripOf_caller (call?_setCall_self system name call)

theorem gripOf_setCall_of_ne {name : Nat} {call : Call} {thread : Thread}
    (h : thread ≠ .caller name) :
    (system.setCall name call).gripOf thread = system.gripOf thread := by
  cases thread with
  | control => rfl
  | caller other =>
      have hne : other ≠ name := by simpa using h
      simp only [gripOf, call?_setCall_of_ne _ _ hne]

/-- A caller that may begin an operation is not at work on the slot. -/
theorem gripOf_of_isFree {name : Nat} (h : system.isFree name = true) :
    system.gripOf (.caller name) = .free := by
  unfold isFree at h
  cases hcall : system.call? name with
  | none => simp [gripOf, hcall]
  | some call =>
      rw [hcall] at h
      rw [gripOf_caller hcall]
      cases call with
      | finished => rfl
      | _ => cases h

private theorem slotStep_caller {name : Nat} {choice : Choice}
    (h : system.stepCaller name choice = some (next, events)) :
    SlotStep system (.step (.caller name) choice) next := by
  obtain ⟨call, advance, hcall, hstep, rfl, -⟩ := stepCaller_case h
  obtain ⟨hruns, hactive⟩ := Call.step_runs hstep
  have hbefore := gripOf_caller hcall
  have hafter : (({ system with engine := advance.engine } : System).setCall name
      advance.next).gripOf (.caller name) = advance.next.grip :=
    gripOf_setCall_self name advance.next
  refine .operation (.caller name) rfl ?_ ?_ ?_ ?_
  · rw [hbefore, hafter]
    exact hruns
  · intro other hother
    rw [gripOf_setCall_of_ne hother]
    cases other <;> rfl
  · rw [hbefore, hafter]
    exact hactive
  · intro hspawning
    rw [hafter, ← Call.proceed_iff_of_spawning (hbefore.symm.trans hspawning) hstep]
    simp [Thread.task]

/-- A thread that has nothing to do with the slot stays away from it, or turns to it. -/
private theorem SlotStep.of_free {thread : Thread} (hthread : action.thread? = some thread)
    (hbefore : system.gripOf thread = .free)
    (hafter : next.gripOf thread = .free ∨ next.gripOf thread = .starting .checking ∨
      next.gripOf thread = .stopping .locking)
    (hothers : ∀ other, other ≠ thread → next.gripOf other = system.gripOf other)
    (hroster : next.roster = system.roster)
    (hactive : next.core.inventoryActive = system.core.inventoryActive) :
    SlotStep system action next := by
  refine .operation thread hthread ?_ hothers ?_ ?_
  · rw [hbefore, hroster]
    exact .elsewhere (.inl rfl) hafter
  · rw [hbefore]
    exact hactive
  · intro hspawning
    rw [hbefore] at hspawning
    cases hspawning

private theorem slotStep_control {choice : Choice}
    (h : system.stepControl choice = some (next, events)) :
    SlotStep system (.step .control choice) next := by
  -- the callers stay where they are
  have hcallers {next : System} (hcalls : next.calls = system.calls) (other : Thread)
      (hother : other ≠ .control) : next.gripOf other = system.gripOf other := by
    cases other with
    | control => exact absurd rfl hother
    | caller name => simp only [gripOf, call?, hcalls]
  cases stepControl_case h with
  | settled event answer hhandling =>
      have hbefore : system.gripOf .control = .free := by
        simp [gripOf, hhandling, Call.grip]
      exact .of_free rfl hbefore (.inl rfl) (hcallers rfl) rfl rfl
  | moved event call advance hhandling hstep =>
      obtain ⟨hruns, hactive⟩ := Call.step_runs hstep
      have hbefore : system.gripOf .control = call.grip := by simp [gripOf, hhandling]
      refine .operation .control rfl ?_ (hcallers rfl) (by rw [hbefore]; exact hactive) ?_
      · rw [hbefore]
        exact hruns
      · intro hspawning
        have hproceed := Call.proceed_iff_of_spawning (hbefore.symm.trans hspawning) hstep
        simpa [Thread.task, gripOf] using hproceed
  | taken event control hhandling =>
      have hbefore : system.gripOf .control = .free := by simp [gripOf, hhandling]
      have hbegin := Call.grip_begin event.operation
      rw [event.begin_operation] at hbegin
      exact .of_free rfl hbefore hbegin (hcallers rfl) rfl rfl
  | left control hhandling =>
      have hbefore : system.gripOf .control = .free := by simp [gripOf, hhandling]
      exact .of_free rfl hbefore (.inl hbefore) (hcallers rfl) rfl rfl

private theorem slotStep_worker {run : RunId} {choice : Choice}
    (h : system.stepWorker run choice = some (next, events)) :
    SlotStep system (.step (.worker run) choice) next := by
  obtain ⟨worker, advance, hworker, hstep, rfl, -⟩ := stepWorker_case h
  obtain ⟨hlive, hactive⟩ := Worker.step_active hstep
  refine .work run worker advance.next rfl hworker hlive rfl ?_ hactive
  funext thread
  cases thread <;> rfl

/-- Every action is a step of an operation, a step of a worker, or of no concern to the
slot. -/
theorem slotStep (h : system.step action = some (next, events)) :
    SlotStep system action next := by
  cases action with
  | step task choice =>
      cases task with
      | caller name => exact slotStep_caller h
      | control => exact slotStep_control h
      | worker run => exact slotStep_worker h
  | begin name operation =>
      simp only [step] at h
      split at h <;> cases h
      rename_i hfree
      refine .of_free rfl (gripOf_of_isFree hfree) ?_ ?_ rfl rfl
      · rw [gripOf_setCall_self]
        exact Call.grip_begin operation
      · intro other hother
        exact gripOf_setCall_of_ne hother
  | receive byte =>
      rw [step_receive h]
      refine .elsewhere rfl rfl ?_ (Core.Takes.receive _ byte).inventoryActive_eq
      funext thread
      cases thread <;> rfl
  | enqueue event =>
      cases h
      refine .elsewhere rfl rfl ?_ rfl
      funext thread
      cases thread <;> rfl
  | tune tunable =>
      cases h
      refine .elsewhere rfl rfl ?_ (by cases tunable <;> rfl)
      funext thread
      cases thread <;> rfl
  | readFails | readerLeaves =>
      simp only [step] at h
      split at h <;> cases h
      refine .elsewhere rfl rfl ?_ rfl
      funext thread
      cases thread <;> rfl

/-! ## The invariant -/

theorem SlotStep.guarded (hstep : SlotStep system action next)
    (h : Guarded system.roster system.gripOf) : Guarded next.roster next.gripOf := by
  cases hstep with
  | operation thread hthread hstep hothers => exact h.step hstep hothers
  | work run worker after hthread hworker hlive hroster hgrips hactive =>
      rw [hroster, hgrips]
      refine h.of_isOver rfl rfl ?_
      intro other hother
      rw [Roster.isOver_setWorker hworker] at hother
      split at hother
      · rename_i heq
        rw [Roster.isOver, heq, hworker]
        exact hlive
      · exact hother
  | elsewhere hthread hroster hgrips hactive =>
      rw [hroster, hgrips]
      exact h

theorem guarded_initial (config : EngineConfig) (connected : Bool) :
    Guarded (initial config connected).roster (initial config connected).gripOf :=
  .initial fun thread => by cases thread <;> rfl

/-! ## One worker at most -/

/-- At most one worker is live, and the flag is up whenever there is one. -/
def Alone (system : System) : Prop :=
  system.roster.live.length ≤ 1 ∧
    (system.roster.live ≠ [] → system.core.inventoryActive = true)

/-- The runs that threads took out of the slot to stop them, and still have in hand after
they gave back the lock. -/
def detached (system : System) : List RunId :=
  system.calls.filterMap (fun entry => entry.2.grip.detached?) ++
    system.handling.toList.filterMap fun entry => entry.2.grip.detached?

/-- A thread comes to spawn a worker, whether the machine has a thread for it or not, only
when no thread has a live run in hand, and spawns it while the flag is up. -/
def Orderly (system : System) (action : Action) : Prop :=
  ∀ thread, action.thread? = some thread → system.gripOf thread = .starting .spawning →
    (∀ run ∈ system.detached, system.roster.isOver run = true) ∧
      (action = .step thread.task .proceed → system.core.inventoryActive = true)

theorem mem_detached {thread : Thread} {run : RunId}
    (h : (system.gripOf thread).detached? = some run) : run ∈ system.detached := by
  cases thread with
  | caller name =>
      cases hcall : system.call? name with
      | none => simp [gripOf, hcall, Grip.detached?] at h
      | some call =>
          rw [gripOf_caller hcall] at h
          obtain ⟨before, after, hcalls, -⟩ := List.lookup_eq_some_iff.mp hcall
          refine List.mem_append_left _ (List.mem_filterMap.mpr ⟨(name, call), ?_, h⟩)
          rw [hcalls]
          exact List.mem_append_right _ (List.mem_cons_self ..)
  | control =>
      cases hhandling : system.handling with
      | none => simp [gripOf, hhandling, Grip.detached?] at h
      | some entry =>
          simp only [gripOf, hhandling, Option.map_some, Option.getD_some] at h
          refine List.mem_append_right _ (List.mem_filterMap.mpr ⟨entry, ?_, h⟩)
          rw [hhandling]
          exact List.mem_singleton_self entry

/-- For a thread about to spawn, a live run can only be in the hand of a thread that stops
it. -/
theorem live_eq_nil_of_spawning (h : Guarded system.roster system.gripOf) {thread : Thread}
    (hspawning : system.gripOf thread = .starting .spawning)
    (hdetached : ∀ run ∈ system.detached, system.roster.isOver run = true) :
    system.roster.live = [] := by
  rw [Roster.live_eq_nil_iff]
  intro run
  by_contra hover
  rw [Bool.not_eq_true] at hover
  rcases h.kept run hover with hslot | ⟨other, hother⟩
  · rw [h.slot thread (by rw [hspawning]; rfl)] at hslot
    cases hslot
  · cases hlocks : (system.gripOf other).locks with
    -- in the slot or under the lock there is nothing when this thread spawns
    | true =>
        have heq : other = thread := h.locks_inj hlocks (by rw [hspawning]; rfl)
        rw [heq, hspawning] at hother
        cases hother
    -- what another thread has in hand without the lock is being stopped
    | false =>
        have hmem := mem_detached (Grip.detached?_of_run? hother hlocks)
        rw [hdetached run hmem] at hover
        cases hover

/-- A step of an operation that spawns no worker leaves the number of live workers alone. -/
private theorem length_live_of_runStep {thread : Thread} {roster roster' : Roster}
    {before after : Grip} (hstep : Call.RunStep thread roster before after roster')
    (h : before ≠ .starting .spawning) : roster'.live.length = roster.live.length := by
  cases hstep with
  | startRequested old | stopRequested old => exact Roster.length_live_requestStop old
  | spawned plan => exact absurd rfl h
  | _ => rfl

/-- For the thread that spawns, no run in hand is live when no worker is. -/
private theorem orderly_iff_of_spawning (hguarded : Guarded system.roster system.gripOf)
    {thread : Thread} (hthread : action.thread? = some thread)
    (hspawning : system.gripOf thread = .starting .spawning) :
    Orderly system action ↔ system.roster.live = [] ∧
      (action = .step thread.task .proceed → system.core.inventoryActive = true) := by
  constructor
  · intro horderly
    obtain ⟨hdetached, hup⟩ := horderly thread hthread hspawning
    exact ⟨live_eq_nil_of_spawning hguarded hspawning hdetached, hup⟩
  · rintro ⟨hnil, hup⟩ other hother -
    rw [hthread] at hother
    cases hother
    exact ⟨fun run _ => Roster.live_eq_nil_iff.mp hnil run, hup⟩

/-- One step keeps a worker alone exactly when it is orderly. -/
theorem alone_step_iff (hstep : SlotStep system action next)
    (hguarded : Guarded system.roster system.gripOf) (halone : system.Alone) :
    next.Alone ↔ Orderly system action := by
  obtain ⟨hle, hflag⟩ := halone
  have hquiet (hthread : action.thread? = none) : Orderly system action := by
    intro thread heq
    rw [hthread] at heq
    cases heq
  cases hstep with
  | operation thread hthread hstep hothers hactive hspawns =>
      by_cases hspawning : system.gripOf thread = .starting .spawning
      · rw [orderly_iff_of_spawning hguarded hthread hspawning, hspawns hspawning]
        rw [hspawning] at hstep hactive
        generalize next.gripOf thread = after at hstep hactive
        generalize hroster : next.roster = roster at hstep
        cases hstep with
        | elsewhere hwhere => rcases hwhere with hwhere | hwhere <;> cases hwhere
        | spawned plan =>
            have hlength : ({ system.roster with
                workers := system.roster.workers ++ [.spawn plan] } : Roster).live.length =
                  system.roster.live.length + 1 := Roster.length_live_spawn plan
            rw [Alone, hroster, hlength, hactive]
            constructor
            · rintro ⟨hone, hup⟩
              refine ⟨List.eq_nil_of_length_eq_zero (by omega), fun _ => hup ?_⟩
              intro hempty
              rw [hempty] at hlength
              cases hlength
            · rintro ⟨hnil, hup⟩
              rw [hnil]
              exact ⟨Nat.le_refl 1, fun _ => hup ⟨_, rfl⟩⟩
        | unspawned cause =>
            -- the flag is down, so that a worker that is still live is without it
            rw [Alone, hroster, hactive]
            constructor
            · rintro ⟨-, hup⟩
              refine ⟨?_, by simp⟩
              by_contra hlive
              cases hup hlive
            · rintro ⟨hnil, -⟩
              exact ⟨hle, fun hlive => absurd hnil hlive⟩
      · -- any other step of an operation keeps the number of workers
        have hlength := length_live_of_runStep hstep hspawning
        have horderly : Orderly system action := by
          intro other hother hgrip
          rw [hthread] at hother
          cases hother
          exact absurd hgrip hspawning
        refine ⟨fun _ => horderly, fun _ => ⟨by rw [hlength]; exact hle, ?_⟩⟩
        intro hlive
        have hbefore : system.roster.live ≠ [] := by
          intro hnil
          rw [hnil] at hlength
          exact hlive (List.eq_nil_of_length_eq_zero hlength)
        rw [hactive, hflag hbefore]
        exact Call.flagAfter_true hspawning
  | work run worker after hthread hworker hlive hroster hgrips hactive =>
      refine ⟨fun _ => hquiet hthread, fun _ => ?_⟩
      -- a worker that ends takes the flag down, and there is no other one
      have hlength : (system.roster.setWorker run after).live.length +
          (if after.exited then 1 else 0) = system.roster.live.length :=
        Roster.length_live_setWorker hworker hlive
      rw [Alone, hroster, hactive]
      cases hexited : after.exited with
      | true =>
          rw [hexited, if_pos rfl] at hlength
          refine ⟨by omega, ?_⟩
          intro hmore
          exact absurd (List.eq_nil_of_length_eq_zero (by omega)) hmore
      | false =>
          rw [hexited] at hlength
          simp only [Bool.false_eq_true, if_false, Nat.add_zero] at hlength
          refine ⟨by omega, ?_⟩
          intro hmore
          have hbefore : system.roster.live ≠ [] := by
            intro hnil
            rw [hnil] at hlength
            exact hmore (List.eq_nil_of_length_eq_zero hlength)
          simp [hflag hbefore]
  | elsewhere hthread hroster hgrips hactive =>
      refine ⟨fun _ => hquiet hthread, fun _ => ?_⟩
      rw [Alone, hroster, hactive]
      exact ⟨hle, hflag⟩

private theorem always_alone_iff (hguarded : Guarded system.roster system.gripOf)
    (halone : system.Alone) (actions : List Action) :
    system.Always Alone actions ↔ system.Along Orderly actions := by
  induction actions generalizing system with
  | nil => exact ⟨fun _ => trivial, fun _ => halone⟩
  | cons action actions ih =>
      have hhead {next : System} {events : List Event}
          (hstep : system.step action = some (next, events)) :
          next.Alone ↔ Orderly system action :=
        alone_step_iff (slotStep hstep) hguarded halone
      have htail {next : System} {events : List Event}
          (hstep : system.step action = some (next, events)) (hnext : next.Alone) :
          next.Always Alone actions ↔ next.Along Orderly actions :=
        ih ((slotStep hstep).guarded hguarded) hnext
      constructor
      · rintro ⟨-, halways⟩ next events hstep
        have hnext := halways next events hstep
        exact ⟨(hhead hstep).mp hnext.head, (htail hstep hnext.head).mp hnext⟩
      · intro halong
        refine ⟨halone, ?_⟩
        intro next events hstep
        obtain ⟨horderly, hrest⟩ := halong next events hstep
        exact (htail hstep ((hhead hstep).mpr horderly)).mpr hrest

/-- **When there is one worker at most.**  In any interleaving of any operations of any
threads, at every moment at most one worker is live, and the flag is up whenever there is
one, exactly when threads come to spawn workers only while no thread has a live run in hand that
it took out of the slot, and spawn them while the flag is up. -/
theorem alone_iff_orderly (config : EngineConfig) (connected : Bool) (actions : List Action) :
    (initial config connected).Always Alone actions ↔
      (initial config connected).Along Orderly actions :=
  always_alone_iff (guarded_initial config connected) ⟨Nat.zero_le 1, fun h => absurd rfl h⟩ actions

/-! ## A stop that is overtaken -/

/-- Steps of a caller that nothing stands in the way of. -/
private def steps (name count : Nat) : List Action :=
  List.replicate count (.step (.caller name) .proceed)

/-- A connected engine carries out a run.  A caller takes the run out of the slot to stop
it and gives the lock back, and before it asks for the stop another caller starts a run. -/
private def overtaken : List Action :=
  .begin 0 .connect :: steps 0 5 ++
    [0xA0, 0x05, 0xFF, 0x72, 0x01, 0x02, 0xE7].map .receive ++ steps 0 2 ++
    .begin 1 (.runBounded 1 false) :: steps 1 7 ++
    .begin 2 .stop :: steps 2 3 ++
    .begin 1 (.startContinuous false) :: steps 1 5

/-- The first worker is asked to stop, and ends. -/
private def firstEnds : List Action :=
  .step (.caller 2) .proceed :: List.replicate 6 (.step (.worker 0) .proceed)

/-- Two workers are live, and the one that ends takes the flag of the other one down. -/
theorem overtaken_two_live :
    ((initial .standard true).run overtaken).isSome = true ∧
      ((initial .standard true).after overtaken).roster.live.length = 2 ∧
      ¬ (initial .standard true).Always Alone overtaken ∧
      ((initial .standard true).after (overtaken ++ firstEnds)).roster.live.length = 1 ∧
      ((initial .standard true).after (overtaken ++ firstEnds)).core.inventoryActive = false := by
  have hpossible : ((initial .standard true).run overtaken).isSome = true := by decide +kernel
  have htwo : ((initial .standard true).after overtaken).roster.live.length = 2 := by
    decide +kernel
  refine ⟨hpossible, htwo, ?_, by decide +kernel, by decide +kernel⟩
  intro halways
  obtain ⟨log, hrun⟩ := run_after _ _ hpossible
  have hone := (halways.last hrun).1
  omega

end System

end TagInventory
