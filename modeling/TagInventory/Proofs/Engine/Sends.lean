import TagInventory.Proofs.Engine.Handshake

/-!
# Sending in two steps

To send a request, a thread checks the flag, and then writes the frame.  Between the two steps
the frame is on its way out (`System.outgoing?`).  A frame gets there only while the flag is up,
it is written from there only, and it leaves in any case (`SendStep`).

While the flag is down nothing new gets on its way, so that each task writes at most the frame
that was on its way already (`Down.writtenBy_prefix`).
-/

namespace TagInventory

/-! ## Frames on their way -/

/-- The frame, when it is about to be written. -/
def Exchange.outgoing? (frame : Frame) : Exchange → Option Frame
  | writing _ => some frame
  | _ => none

/-- The frame that an operation is about to write. -/
def Call.outgoing? (config : EngineConfig) : Call → Option Frame
  | writing request => some (request.frame config.readerAddress)
  | call => call.exchange?.bind fun entry =>
      entry.2.outgoing? (entry.1.frame config.readerAddress)

/-- The frame that a worker is about to write. -/
def WorkerPhase.outgoing? (config : EngineConfig) : WorkerPhase → Option Frame
  | asking stage exchange => exchange.outgoing? (stage.frame config)
  | _ => none

/-- A worker that holds no ticket has nothing on its way. -/
theorem WorkerPhase.outgoing?_of_ticket? {config : EngineConfig} {phase : WorkerPhase}
    (h : phase.ticket? = none) : phase.outgoing? config = none := by
  cases phase with
  | asking stage exchange => cases exchange <;> first | rfl | cases h
  | _ => rfl

/-- One step of a task, as far as sending is concerned: the frame that was on its way, the
frames that are written, and the frame that is on its way afterwards. -/
inductive SendStep (core : Core) : Option Frame → List Frame → Option Frame → Prop
  | idle : SendStep core none [] none
  | checked (frame : Frame) (h : core.initialized = true) : SendStep core none [] (some frame)
  | wrote (frame : Frame) : SendStep core (some frame) [frame] none
  | unsent (frame : Frame) : SendStep core (some frame) [] none

/-- A step of an exchange about a request. -/
theorem Exchange.step_sends {question : Question} {prepare : Core → Core} {core : Core}
    {exchange : Exchange} {choice : Choice} {advance : Advance Exchange}
    (h : exchange.step question prepare core choice = some advance) :
    SendStep core (exchange.outgoing? (core.frameOf question.request)) (framesOf advance.events)
      (advance.next.outgoing? (core.frameOf question.request)) := by
  cases Exchange.step_case h with
  | opened | withheld | answered | expired => exact .idle
  | checked ticket hflag => exact .checked _ hflag
  | wrote ticket => exact .wrote _
  | broke | unlinked => exact .unsent _

namespace Call

variable {engine : Engine} {thread : Thread} {choice : Choice} {call : Call}
  {advance : CallAdvance Call}

theorem outgoing?_of_answer? {config : EngineConfig} (h : call.answer? ≠ none) :
    call.outgoing? config = none := by
  cases call <;> first | rfl | exact absurd rfl h

private theorem ask_sends {request : Request} {exchange : Exchange} {going : Exchange → Call}
    {ended : WaitOutcome → Call} {failed : Failure → Call}
    (hgoing : ∀ exchange, (going exchange).outgoing? engine.core.config =
      exchange.outgoing? (engine.core.frameOf request))
    (hended : ∀ outcome, (ended outcome).outgoing? engine.core.config = none)
    (hfailed : ∀ failure, (failed failure).outgoing? engine.core.config = none)
    (h : ask engine request exchange choice going ended failed = some advance) :
    SendStep engine.core (exchange.outgoing? (engine.core.frameOf request))
      (framesOf advance.events) (advance.next.outgoing? engine.core.config) := by
  rw [ask, Option.map_eq_some_iff] at h
  obtain ⟨inner, hinner, rfl⟩ := h
  have hsends := Exchange.step_sends hinner
  -- what is on its way is on its way inside the exchange
  cases hnext : inner.next with
  | ended outcome =>
      rw [hnext] at hsends
      dsimp only
      rw [hended]
      exact hsends
  | failed failure =>
      rw [hnext] at hsends
      dsimp only
      rw [hfailed]
      exact hsends
  | opening | checking | writing | awaiting =>
      rw [hnext] at hsends
      dsimp only
      rw [hgoing]
      exact hsends

theorem step_sends (h : call.step engine thread choice = some advance) :
    SendStep engine.core (call.outgoing? engine.core.config) (framesOf advance.events)
      (advance.next.outgoing? engine.core.config) := by
  cases call with
  | asking | askingRegion | askingPower | askingFirmware =>
      exact ask_sends (by intro; rfl) (by intro; rfl) (by intro; rfl) h
  | executing request =>
      cases choice <;> simp only [Call.step, moveCore, reduceCtorEq] at h
      split at h <;> rename_i hflag <;> cases h
      · exact .checked _ hflag
      · exact .idle
  | writing request =>
      simp only [Call.step, Option.map_eq_some_iff] at h
      obtain ⟨inner, hwrite, rfl⟩ := h
      unfold Core.write at hwrite
      split at hwrite <;> cases choice <;> cases hwrite
      · exact .wrote _
      · exact .unsent _
      · exact .unsent _
  | starting plan step =>
      obtain ⟨-, -, ⟨notices, hevents⟩, hnext⟩ := starting_effect h
      rw [hevents, framesOf_noted]
      obtain ⟨plan', step', hnext⟩ | ⟨answer, hnext, -⟩ := hnext <;> rw [hnext] <;> exact .idle
  | stopping step | closingRun step =>
      cases choice <;> cases step <;>
        simp only [Call.step, moveCore, reduceCtorEq, Option.map_eq_some_iff] at h
      case proceed.stopped =>
        cases h
        exact .idle
      all_goals
        obtain ⟨inner, hinner, rfl⟩ := h
        simp only [stop, moveRoster, moveCore] at hinner
        (try split at hinner) <;> cases hinner <;> exact .idle
  | flushing =>
      simp only [Call.step] at h
      split at h <;> cases choice <;> cases h <;> exact .idle
  | readingSettings fresh =>
      cases choice <;> simp only [Call.step, moveCore, reduceCtorEq] at h
      cases h
      cases fresh <;> exact .idle
  | _ =>
      cases choice <;> simp only [Call.step, moveCore, reduceCtorEq] at h <;>
        (try split at h) <;> cases h <;> exact .idle

end Call

theorem Operation.outgoing?_begin (config : EngineConfig) (operation : Operation) :
    operation.begin.outgoing? config = none := by
  cases operation with
  | execute code payload | executeAndWait code payload =>
      simp only [begin, beginRaw]
      split <;> rfl
  | _ => rfl

theorem Worker.step_sends {core : Core} {worker : Worker} {choice : Choice}
    {advance : Advance Worker} (h : worker.step core choice = some advance) :
    SendStep core (worker.phase.outgoing? core.config) (framesOf advance.events)
      (advance.next.phase.outgoing? core.config) := by
  cases hwhere : worker.phase with
  | asking stage exchange =>
      obtain ⟨inner, hinner, rfl⟩ := step_of_asking hwhere h
      have hsends := Exchange.step_sends hinner
      have hafter : (afterExchange stage worker inner).next.phase.outgoing? core.config =
            inner.next.outgoing? (stage.frame core.config) ∧
          framesOf (afterExchange stage worker inner).events = framesOf inner.events := by
        unfold afterExchange
        cases inner.next with
        | ended outcome => cases outcome <;> cases stage <;> exact ⟨rfl, by simp⟩
        | opening | checking | writing | awaiting | failed =>
            cases stage <;> exact ⟨rfl, by simp⟩
      rw [hafter.1, hafter.2]
      exact hsends
  | _ =>
      -- outside its exchanges a worker has nothing on its way, before and after
      have hflow := step_flow h
      have hphase : ∀ stage exchange, worker.phase ≠ .asking stage exchange := by simp [hwhere]
      rw [WorkerPhase.outgoing?_of_ticket? (step_of_not_asking hphase h).2.2]
      generalize framesOf advance.events = frames at hflow ⊢
      generalize advance.next = after at hflow
      cases hflow with
      | wrote hasking => exact absurd hasking (hphase _ _)
      | _ => exact .idle

/-- The frame that the worker of a run is about to write. -/
def Roster.outgoing? (config : EngineConfig) (roster : Roster) (run : RunId) : Option Frame :=
  (roster.worker? run).bind fun worker => worker.phase.outgoing? config

theorem Roster.outgoing?_setWorker {config : EngineConfig} {roster : Roster} (run other : RunId)
    (worker : Worker) (h : (roster.worker? run).isSome = true) :
    (roster.setWorker run worker).outgoing? config other =
      if other = run then worker.phase.outgoing? config else roster.outgoing? config other := by
  rw [outgoing?, worker?_setWorker run other worker h, outgoing?]
  split <;> rfl

namespace System

variable {system next : System} {action : Action} {events : List Event}

/-! ## Actions -/

/-- The frame that a task is about to write. -/
def outgoing? (system : System) : Task → Option Frame
  | .caller name => (system.placeOf (.caller name)).bind (Call.outgoing? system.core.config)
  | .control => (system.placeOf .control).bind (Call.outgoing? system.core.config)
  | .worker run => system.roster.outgoing? system.core.config run

theorem outgoing?_task (system : System) (thread : Thread) :
    system.outgoing? thread.task =
      (system.placeOf thread).bind (Call.outgoing? system.core.config) := by
  cases thread <;> rfl

/-- A thread that is not in the middle of an operation has nothing on its way. -/
theorem outgoing?_of_not_inOperation {thread : Thread} (h : ¬system.InOperation thread) :
    system.outgoing? thread.task = none := by
  rw [outgoing?_task, Option.bind_eq_none_iff]
  intro call hplace
  exact Call.outgoing?_of_answer? fun hanswer => h ⟨call, hplace, hanswer⟩

private theorem outgoing?_of_turned {thread : Thread}
    (hafter : ∀ call, next.placeOf thread = some call → ∃ operation : Operation,
      call = operation.begin ∧ (operation = .connect → action.connects = true)) :
    next.outgoing? thread.task = none := by
  rw [outgoing?_task, Option.bind_eq_none_iff]
  intro call hplace
  obtain ⟨operation, rfl, -⟩ := hafter call hplace
  exact Operation.outgoing?_begin _ operation

/-- What the task of an action sends. -/
theorem sendStep (hsound : system.Sound) (h : system.step action = some (next, events))
    {task : Task} (htask : action.task? = some task) :
    SendStep system.core (system.outgoing? task) (framesOf events) (next.outgoing? task) := by
  have hconfig := (step_keeps hsound h).config_eq
  cases actionStep h with
  | carried thread choice call advance haction hplace hstep _ hnext _ hevents =>
      obtain rfl : thread.task = task := by simpa [haction] using htask
      rw [outgoing?_task, outgoing?_task, hplace, hnext, hconfig, hevents]
      exact Call.step_sends hstep
  | worked run choice worker advance haction hworker hstep _ hroster _ hevents =>
      obtain rfl : .worker run = task := by simpa [haction] using htask
      rw [outgoing?, outgoing?, hroster, hconfig, hevents,
        Roster.outgoing?_setWorker run run _ (by rw [hworker]; rfl), if_pos rfl, Roster.outgoing?,
        hworker]
      exact Worker.step_sends hstep
  | turned thread hthread _ hbefore hafter _ _ _ hframes =>
      obtain rfl : thread.task = task := by
        cases action with
        | step other choice =>
            cases other <;> cases hthread <;> exact Option.some.inj htask
        | _ => cases htask
      rw [outgoing?_of_not_inOperation hbefore, outgoing?_of_turned hafter, hframes]
      exact .idle
  | aside _ hnone =>
      rw [hnone] at htask
      cases htask

/-- An action changes nothing about what the other tasks send. -/
theorem outgoing?_of_other (hsound : system.Sound)
    (h : system.step action = some (next, events)) {task : Task}
    (hother : action.task? ≠ some task) : next.outgoing? task = system.outgoing? task := by
  have hconfig := (step_keeps hsound h).config_eq
  have hthread (thread : Thread) (htask : action.task? ≠ some thread.task) :
      next.outgoing? thread.task = system.outgoing? thread.task := by
    cases placeStep h thread with
    | carried choice _ _ haction =>
        rw [haction] at htask
        exact absurd rfl htask
    | turned _ hbefore hafter =>
        rw [outgoing?_of_not_inOperation hbefore, outgoing?_of_turned hafter]
    | stays _ hsame => rw [outgoing?_task, outgoing?_task, hsame, hconfig]
  cases task with
  | caller name => exact hthread (.caller name) hother
  | control => exact hthread .control hother
  | worker run =>
      rw [outgoing?, outgoing?, hconfig]
      cases actionStep h with
      | carried thread choice call advance _ _ hcall hengine =>
          rw [roster, hengine]
          exact (Call.step_runs hcall).1.bind_phase rfl run
      | worked other choice worker advance haction hworker _ _ hroster =>
          have hne : run ≠ other := by
            rintro rfl
            exact hother (by rw [haction]; rfl)
          rw [hroster, Roster.outgoing?_setWorker other run _ (by rw [hworker]; rfl), if_neg hne]
      | turned _ _ _ _ _ _ _ hroster => rw [hroster]
      | aside _ _ _ hroster => rw [hroster]

theorem framesOf_of_no_task (h : system.step action = some (next, events))
    (htask : action.task? = none) : framesOf events = [] := by
  cases actionStep h with
  | carried _ _ _ _ haction | worked _ _ _ _ haction =>
      rw [haction] at htask
      cases htask
  | turned _ _ _ _ _ _ _ _ hframes => exact hframes
  | aside _ _ _ _ hframes => exact hframes

/-! ## While the flag is down -/

/-- Nobody raises the flag when the link is not opened. -/
theorem down_step (hsettled : system.Settled) (hdown : system.core.initialized = false)
    (h : system.step action = some (next, events)) : next.core.initialized = false := by
  by_contra hflag
  rw [Bool.not_eq_false] at hflag
  rcases initialized_of_step h hflag with hold | ⟨thread, hplace, -⟩
  · rw [hdown] at hold
    cases hold
  · exact absurd (hsettled thread _ hplace) (by decide)

/-- The flag is down and nobody is about to raise it. -/
structure Down (system : System) : Prop where
  sound : system.Sound
  settled : system.Settled
  flag : system.core.initialized = false

theorem Down.step (h : system.Down) (haction : action.connects = false)
    (hstep : system.step action = some (next, events)) : next.Down :=
  ⟨h.sound.step hstep, h.settled.step haction hstep, down_step h.settled h.flag hstep⟩

variable {actions : List Action} {last : System} {log : List Event}

/-- While the flag is down, a task writes at most the frame that was on its way. -/
theorem Down.writtenBy_prefix (h : system.Down)
    (hactions : ∀ action ∈ actions, action.connects = false)
    (hrun : system.run actions = some (last, log)) (task : Task) :
    system.writtenBy task actions <+: (system.outgoing? task).toList := by
  induction actions generalizing system log with
  | nil => exact List.nil_prefix
  | cons action actions ih =>
      obtain ⟨next, events, later, hstep, hrest, -⟩ := run_cons_case hrun
      rw [List.forall_mem_cons] at hactions
      have hlater := ih (h.step hactions.1 hstep) hactions.2 hrest
      by_cases htask : action.task? = some task
      · rw [writtenBy_cons_of_eq hstep htask]
        have hsends := sendStep h.sound hstep htask
        generalize system.outgoing? task = before at hsends ⊢
        generalize next.outgoing? task = after at hsends hlater
        generalize framesOf events = frames at hsends ⊢
        cases hsends with
        | idle => exact hlater
        | checked frame hflag =>
            rw [h.flag] at hflag
            cases hflag
        | wrote frame =>
            rw [List.prefix_nil.mp hlater]
            exact List.prefix_refl _
        | unsent frame =>
            rw [List.prefix_nil.mp hlater]
            exact List.nil_prefix
      · rw [writtenBy_cons_of_ne hstep htask, ← outgoing?_of_other h.sound hstep htask]
        exact hlater

/-- While the flag is down, nothing is written but what was on its way. -/
theorem Down.mem_outgoing (h : system.Down)
    (hactions : ∀ action ∈ actions, action.connects = false)
    (hrun : system.run actions = some (last, log)) {frame : Frame} (hframe : frame ∈ framesOf log) :
    ∃ task, system.outgoing? task = some frame := by
  induction actions generalizing system log with
  | nil =>
      cases hrun
      cases hframe
  | cons action actions ih =>
      obtain ⟨next, events, later, hstep, hrest, rfl⟩ := run_cons_case hrun
      rw [List.forall_mem_cons] at hactions
      rw [framesOf_append, List.mem_append] at hframe
      have hkept (task : Task) (hsome : next.outgoing? task = some frame) :
          system.outgoing? task = some frame := by
        by_cases htask : action.task? = some task
        · have hsends := sendStep h.sound hstep htask
          rw [hsome] at hsends
          generalize system.outgoing? task = before at hsends
          generalize framesOf events = frames at hsends
          cases hsends with
          | checked _ hflag =>
              rw [h.flag] at hflag
              cases hflag
        · rw [← outgoing?_of_other h.sound hstep htask, hsome]
      rcases hframe with hnow | hlater
      · cases htask : action.task? with
        | none =>
            rw [framesOf_of_no_task hstep htask] at hnow
            cases hnow
        | some task =>
            refine ⟨task, ?_⟩
            have hsends := sendStep h.sound hstep htask
            generalize framesOf events = frames at hsends hnow
            generalize system.outgoing? task = before at hsends ⊢
            generalize next.outgoing? task = after at hsends
            cases hsends with
            | wrote => rw [List.mem_singleton.mp hnow]
            | idle | checked | unsent => cases hnow
      · obtain ⟨task, hsome⟩ := ih (h.step hactions.1 hstep) hactions.2 hrest hlater
        exact ⟨task, hkept task hsome⟩

end System

end TagInventory
