import TagInventory.Proofs.Engine.Exchanges

/-!
# What operations do to the runs

`Call.RunStep` lists what a step of an operation can do to the roster: one case for each
place on the way to starting or stopping a run.  Every other step leaves the roster alone
(`Call.step_runs`), and none moves a worker through its exchanges
(`Call.RunStep.ticketOf_roster`).
-/

namespace TagInventory

/-! ## Workers in the roster -/

namespace Roster

variable {roster : Roster}

theorem worker?_setWorker (run other : RunId) (worker : Worker)
    (h : (roster.worker? run).isSome) :
    (roster.setWorker run worker).worker? other =
      if other = run then some worker else roster.worker? other := by
  have hlt : run < roster.workers.length := by
    simpa [worker?] using h
  simp only [setWorker, worker?, List.getElem?_set]
  by_cases heq : run = other
  · subst heq
    simp [hlt]
  · rw [if_neg heq, if_neg (Ne.symm heq)]

theorem worker?_requestStop (run other : RunId) :
    (roster.requestStop run).worker? other =
      (roster.worker? other).map fun worker =>
        if other = run then { worker with stopRequested := true } else worker := by
  unfold requestStop
  cases hrun : roster.worker? run with
  | none =>
      by_cases heq : other = run
      · subst heq
        simp [hrun]
      · simp [heq]
  | some worker =>
      dsimp only
      rw [worker?_setWorker run other _ (by rw [hrun]; rfl)]
      by_cases heq : other = run
      · subst heq
        simp [hrun]
      · simp [heq]

/-- The ticket that the worker of a run holds. -/
def ticketOf (roster : Roster) (run : RunId) : Option Ticket :=
  (roster.worker? run).bind fun worker => worker.phase.ticket?

theorem ticketOf_setWorker (run other : RunId) (worker : Worker)
    (h : (roster.worker? run).isSome) :
    (roster.setWorker run worker).ticketOf other =
      if other = run then worker.phase.ticket? else roster.ticketOf other := by
  rw [ticketOf, worker?_setWorker run other worker h, ticketOf]
  split <;> rfl

/-- What is read off the place of a worker does not change when a stop is asked for. -/
theorem bind_phase_requestStop {α : Type} (read : WorkerPhase → Option α) (run other : RunId) :
    ((roster.requestStop run).worker? other).bind (fun worker => read worker.phase) =
      (roster.worker? other).bind fun worker => read worker.phase := by
  rw [worker?_requestStop]
  cases roster.worker? other with
  | none => rfl
  | some worker => by_cases heq : other = run <;> simp [heq]

theorem bind_phase_spawn {α : Type} {read : WorkerPhase → Option α}
    (hstarting : read .starting = none) (plan : RunPlan) (run : RunId) :
    (Roster.worker? { roster with workers := roster.workers ++ [.spawn plan] } run).bind
        (fun worker => read worker.phase) =
      (roster.worker? run).bind fun worker => read worker.phase := by
  simp only [worker?]
  rcases Nat.lt_trichotomy run roster.workers.length with hlt | heq | hgt
  · rw [List.getElem?_append_left hlt]
  · subst heq
    simp [Worker.spawn, hstarting]
  · rw [List.getElem?_eq_none (by simp; omega), List.getElem?_eq_none (by omega)]

end Roster

/-! ## The place of an operation -/

/-- What an operation has to do with the slot of the runs. -/
inductive Grip
  /-- Nothing. -/
  | free
  /-- It is about to put a new run there. -/
  | starting (step : StartStep)
  /-- It takes the run out. -/
  | stopping (step : StopStep)
  deriving DecidableEq

namespace Call

variable {engine : Engine} {thread : Thread} {choice : Choice}

/-- What a call has to do with the slot. -/
def grip : Call → Grip
  | .starting _ step => .starting step
  | .stopping step | .closingRun step => .stopping step
  | _ => .free

/-! ## Steps -/

/-- The steps of an operation, as far as the runs are concerned: what becomes of the place
of the thread and of the roster. -/
inductive RunStep (thread : Thread) (roster : Roster) : Grip → Grip → Roster → Prop
  | elsewhere {before after : Grip} (hbefore : before = .free ∨ before = .stopping .stopped)
      (hafter : after = .free ∨ after = .starting .checking ∨ after = .stopping .locking) :
      RunStep thread roster before after roster
  | refused : RunStep thread roster (.starting .checking) .free roster
  | accepted : RunStep thread roster (.starting .checking) (.starting .locking) roster
  | startLocked (h : roster.holder = none) :
      RunStep thread roster (.starting .locking) (.starting .taking)
        { roster with holder := some thread }
  | startTook (old : RunId) (h : roster.slot = some old) :
      RunStep thread roster (.starting .taking) (.starting (.requestingStop old))
        { roster with slot := none }
  | startFound (h : roster.slot = none) :
      RunStep thread roster (.starting .taking) (.starting .raising) roster
  | startRequested (old : RunId) :
      RunStep thread roster (.starting (.requestingStop old)) (.starting (.joining old))
        (roster.requestStop old)
  | startJoined (old : RunId) (h : roster.isOver old = true) :
      RunStep thread roster (.starting (.joining old)) (.starting .raising) roster
  | raised : RunStep thread roster (.starting .raising) (.starting .spawning) roster
  | spawned (plan : RunPlan) :
      RunStep thread roster (.starting .spawning) (.starting (.storing roster.workers.length))
        { roster with workers := roster.workers ++ [.spawn plan] }
  | unspawned (cause : String) :
      RunStep thread roster (.starting .spawning) (.starting (.abandoning cause)) roster
  | stored (run : RunId) :
      RunStep thread roster (.starting (.storing run)) (.starting .unlocking)
        { roster with slot := some run }
  | startUnlocked :
      RunStep thread roster (.starting .unlocking) .free { roster with holder := none }
  | abandoned (cause : String) :
      RunStep thread roster (.starting (.abandoning cause)) .free { roster with holder := none }
  | stopLocked (h : roster.holder = none) :
      RunStep thread roster (.stopping .locking) (.stopping .taking)
        { roster with holder := some thread }
  | stopTook :
      RunStep thread roster (.stopping .taking) (.stopping (.unlocking roster.slot))
        { roster with slot := none }
  | stopFreed (old : RunId) :
      RunStep thread roster (.stopping (.unlocking (some old))) (.stopping (.requestingStop old))
        { roster with holder := none }
  | stopFound :
      RunStep thread roster (.stopping (.unlocking none)) (.stopping .stopped)
        { roster with holder := none }
  | stopRequested (old : RunId) :
      RunStep thread roster (.stopping (.requestingStop old)) (.stopping (.joining old))
        (roster.requestStop old)
  | stopJoined (old : RunId) (h : roster.isOver old = true) :
      RunStep thread roster (.stopping (.joining old)) (.stopping .stopped) roster

/-- What a step from one place to another does to the flag that says that a worker is
polling. -/
def flagAfter (active : Bool) : Grip → Grip → Bool
  | .starting .raising, _ => true
  | .starting .spawning, .starting (.abandoning _) => false
  | _, _ => active

/-- Only a worker that cannot be spawned has the flag taken down. -/
theorem flagAfter_true {before after : Grip} (h : before ≠ .starting .spawning) :
    flagAfter true before after = true := by
  unfold flagAfter
  split
  · rfl
  · exact absurd rfl h
  · rfl

theorem starting_runs {plan : RunPlan} {step : StartStep} {advance : CallAdvance Call}
    (h : (starting plan step).step engine thread choice = some advance) :
    RunStep thread engine.roster (.starting step) advance.next.grip advance.engine.roster ∧
      advance.engine.core.inventoryActive =
        flagAfter engine.core.inventoryActive (.starting step) advance.next.grip := by
  obtain ⟨-, h⟩ | ⟨cause, -, rfl, hfails⟩ := starting_case h
  case inr =>
    -- there was no thread for the worker
    cases hfails
    exact ⟨.unspawned cause, rfl⟩
  cases step with
  | checking =>
      simp only [start, moveCore] at h
      split at h <;> cases h
      · exact ⟨.accepted, rfl⟩
      · exact ⟨.refused, rfl⟩
  | locking =>
      simp only [start, moveRoster] at h
      split at h <;> cases h
      rename_i hholder
      exact ⟨.startLocked (by simpa using hholder), rfl⟩
  | taking =>
      simp only [start, moveRoster, moveCore] at h
      split at h <;> rename_i hslot <;> cases h
      · exact ⟨.startTook _ hslot, rfl⟩
      · exact ⟨.startFound hslot, rfl⟩
  | requestingStop old =>
      cases h
      exact ⟨.startRequested old, rfl⟩
  | joining old =>
      simp only [start, moveCore] at h
      split at h <;> cases h
      rename_i hover
      exact ⟨.startJoined old hover, rfl⟩
  | raising =>
      cases h
      exact ⟨.raised, rfl⟩
  | spawning =>
      cases h
      exact ⟨.spawned plan, rfl⟩
  | storing run =>
      cases h
      exact ⟨.stored run, rfl⟩
  | unlocking =>
      cases h
      exact ⟨.startUnlocked, rfl⟩
  | abandoning cause =>
      cases h
      exact ⟨.abandoned cause, rfl⟩

/-- The machine decides whether a worker is spawned. -/
theorem proceed_iff_of_spawning {call : Call} {advance : CallAdvance Call}
    (hgrip : call.grip = .starting .spawning)
    (h : call.step engine thread choice = some advance) :
    choice = .proceed ↔ ∃ run, advance.next.grip = .starting (.storing run) := by
  cases call with
  | starting plan step =>
      cases hgrip
      obtain ⟨rfl, hspawned⟩ | ⟨cause, rfl, -, hfails⟩ := starting_case h
      · cases hspawned
        exact iff_of_true rfl ⟨_, rfl⟩
      · cases hfails
        exact iff_of_false (by simp) (by simp [grip])
  | _ => cases hgrip

theorem stop_runs {step : StopStep} {advance : CallAdvance StopStep}
    (h : stop engine thread step = some advance) :
    RunStep thread engine.roster (.stopping step) (.stopping advance.next)
      advance.engine.roster := by
  cases step with
  | locking =>
      simp only [stop, moveRoster] at h
      split at h <;> cases h
      rename_i hholder
      exact .stopLocked (by simpa using hholder)
  | taking =>
      cases h
      exact .stopTook
  | unlocking old =>
      cases old <;> cases h
      · exact .stopFound
      · exact .stopFreed _
  | requestingStop old =>
      cases h
      exact .stopRequested old
  | joining old =>
      simp only [stop, moveCore] at h
      split at h <;> cases h
      rename_i hover
      exact .stopJoined old hover
  | stopped => cases h

/-- A write moves on, whatever the link does. -/
theorem write_next {α : Type} {core : Core} {frame : Frame} {written : α} {refused : Failure → α}
    {advance : Advance α} (h : core.write frame choice written refused = some advance) :
    advance.core.inventoryActive = core.inventoryActive ∧
      (advance.next = written ∨ ∃ failure, advance.next = refused failure) := by
  unfold Core.write at h
  split at h <;> cases choice <;> cases h
  · exact ⟨rfl, .inl rfl⟩
  · exact ⟨rfl, .inr ⟨_, rfl⟩⟩
  · exact ⟨rfl, .inr ⟨_, rfl⟩⟩

theorem ask_runs {request : Request} {exchange : Exchange} {going : Exchange → Call}
    {ended : WaitOutcome → Call} {failed : Failure → Call} {advance : CallAdvance Call}
    (hgoing : ∀ exchange, (going exchange).grip = .free)
    (hended : ∀ outcome, (ended outcome).grip = .free)
    (hfailed : ∀ failure, (failed failure).grip = .free)
    (h : ask engine request exchange choice going ended failed = some advance) :
    RunStep thread engine.roster .free advance.next.grip advance.engine.roster ∧
      advance.engine.core.inventoryActive = engine.core.inventoryActive := by
  rw [ask, Option.map_eq_some_iff] at h
  obtain ⟨inner, hinner, rfl⟩ := h
  have hactive : inner.core.inventoryActive = engine.core.inventoryActive := by
    cases Exchange.step_case hinner <;> rfl
  refine ⟨.elsewhere (.inl rfl) (.inl ?_), hactive⟩
  dsimp only
  split
  · exact hended _
  · exact hfailed _
  · exact hgoing _

/-- What a step of an operation does to the runs. -/
theorem step_runs {call : Call} {advance : CallAdvance Call}
    (h : call.step engine thread choice = some advance) :
    RunStep thread engine.roster call.grip advance.next.grip advance.engine.roster ∧
      advance.engine.core.inventoryActive =
        flagAfter engine.core.inventoryActive call.grip advance.next.grip := by
  cases call with
  | asking | askingRegion | askingPower | askingFirmware =>
      exact ask_runs (by intro; rfl) (by intro; rfl) (by intro; rfl) h
  | starting plan step =>
      exact starting_runs h
  | stopping step | closingRun step =>
      cases choice <;> cases step <;>
        simp only [Call.step, moveCore, reduceCtorEq, Option.map_eq_some_iff] at h
      case proceed.stopped =>
        cases h
        exact ⟨.elsewhere (.inr rfl) (.inl rfl), rfl⟩
      all_goals
        obtain ⟨inner, hinner, rfl⟩ := h
        refine ⟨stop_runs hinner, ?_⟩
        dsimp only
        rw [stop_core hinner]
        rfl
  | writing request =>
      simp only [Call.step, Option.map_eq_some_iff] at h
      obtain ⟨inner, hwrite, rfl⟩ := h
      obtain ⟨hactive, hnext⟩ := write_next hwrite
      refine ⟨.elsewhere (.inl rfl) (.inl ?_), hactive⟩
      obtain hnext | ⟨failure, hnext⟩ := hnext <;> rw [hnext] <;> rfl
  | flushing =>
      simp only [Call.step] at h
      split at h <;> cases choice <;> cases h <;>
        exact ⟨.elsewhere (.inl rfl) (.inl rfl), rfl⟩
  -- from here on the thread turns to the slot, for a start or for a stop
  | sizingClosing =>
      cases choice <;> cases h
      exact ⟨.elsewhere (.inl rfl) (.inr (.inl rfl)), rfl⟩
  | joiningControl =>
      cases choice <;> simp only [Call.step, moveCore, reduceCtorEq] at h
      split at h <;> cases h
      exact ⟨.elsewhere (.inl rfl) (.inr (.inr rfl)), rfl⟩
  | _ =>
      cases choice <;> simp only [Call.step, moveCore, reduceCtorEq] at h <;>
        (try split at h) <;> cases h <;> exact ⟨.elsewhere (.inl rfl) (.inl rfl), rfl⟩

/-- No operation moves a worker. -/
theorem RunStep.bind_phase {α : Type} {read : WorkerPhase → Option α}
    (hstarting : read .starting = none) {roster after : Roster} {before next : Grip}
    (h : RunStep thread roster before next after) (run : RunId) :
    (after.worker? run).bind (fun worker => read worker.phase) =
      (roster.worker? run).bind fun worker => read worker.phase := by
  cases h with
  | startRequested old | stopRequested old => exact Roster.bind_phase_requestStop read old run
  | spawned plan => exact Roster.bind_phase_spawn hstarting plan run
  | _ => rfl

/-- No operation moves the workers through their exchanges. -/
theorem RunStep.ticketOf_roster {roster after : Roster} {before next : Grip}
    (h : RunStep thread roster before next after) (run : RunId) :
    after.ticketOf run = roster.ticketOf run :=
  h.bind_phase rfl run

end Call

end TagInventory
