import TagInventory.Proofs.Engine.Course
import TagInventory.Proofs.Engine.SingleWorker

/-!
# When a stop is a barrier

A stop takes the run out of the slot under the lock, gives the lock back, and waits for the
worker afterwards.  A second stop that comes in the meantime finds the slot empty and returns
at once, while the worker is still at work.

The main statement says exactly when this happens.  When a stop returns, every worker that was
spawned before it began is over, unless another thread that took its run out of the slot is
still busy stopping it.

## Strategy

* Over is over: a worker that has ended takes no step, and no operation brings it back
  (`SlotStep.isOver`).
* A stop that takes the slot holds the lock, so that by `Guarded` every live run is now in its
  own hand or in the hand of a thread that has already given the lock back to stop it
  (`cornered_of_taking`).
* From then on such a run stays in the hand of a thread that stops it until it is over
  (`SlotStep.cornered`): nobody lets go of a run before its worker has ended, and what is in
  nobody's slot is not taken again.
-/

namespace TagInventory

/-- The run that the thread has taken out of the slot to stop it. -/
def Grip.stops? : Grip → Option RunId
  | stopping (.unlocking run) => run
  | stopping (.requestingStop run) | stopping (.joining run) => some run
  | _ => none

theorem Grip.stops?_of_detached? {grip : Grip} {run : RunId} (h : grip.detached? = some run) :
    grip.stops? = some run := by
  cases grip with
  | free | starting => cases h
  | stopping step => cases step <;> first | exact h | cases h

namespace System

variable {system next : System} {action : Action} {events : List Event} {run : RunId}
  {thread : Thread}

/-! ## Over is over -/

theorem isOver_of_stepWorker {choice : Choice}
    (h : system.step (.step (.worker run) choice) = some (next, events)) :
    system.roster.isOver run = false := by
  obtain ⟨worker, advance, hworker, hstep, -, -⟩ := stepWorker_case h
  rw [Roster.isOver, hworker]
  exact (Worker.step_active hstep).1

private theorem length_of_runStep {roster roster' : Roster} {before after : Grip}
    (hstep : Call.RunStep thread roster before after roster') :
    roster.workers.length ≤ roster'.workers.length := by
  cases hstep with
  | startRequested old | stopRequested old => rw [Roster.length_requestStop]
  | spawned plan => simp
  | _ => exact Nat.le_refl _

/-- The number of workers that were spawned so far. -/
theorem SlotStep.length_le (hstep : SlotStep system action next) :
    system.roster.workers.length ≤ next.roster.workers.length := by
  cases hstep with
  | operation thread hthread hstep hothers hactive => exact length_of_runStep hstep
  | work run worker after hthread hworker hlive hroster hgrips hactive =>
      rw [hroster, Roster.setWorker, List.length_set]
  | elsewhere hthread hroster hgrips hactive => rw [hroster]

private theorem isOver_of_runStep {roster roster' : Roster} {before after : Grip}
    (hstep : Call.RunStep thread roster before after roster') (hrun : run < roster.workers.length)
    (hover : roster.isOver run = true) : roster'.isOver run = true := by
  cases hstep with
  | startRequested old | stopRequested old =>
      rw [Roster.isOver_requestStop]
      exact hover
  | spawned plan =>
      cases hlive :
          Roster.isOver { roster with workers := roster.workers ++ [.spawn plan] } run with
      | true => rfl
      | false =>
          rcases Roster.isOver_spawn hlive with rfl | hlive
          · exact absurd hrun (Nat.lt_irrefl _)
          · rw [hover] at hlive
            cases hlive
  | _ => exact hover

theorem SlotStep.isOver (hstep : SlotStep system action next)
    (hrun : run < system.roster.workers.length) (hover : system.roster.isOver run = true) :
    next.roster.isOver run = true := by
  cases hstep with
  | operation thread hthread hstep hothers hactive => exact isOver_of_runStep hstep hrun hover
  | work other worker after hthread hworker hlive hroster hgrips hactive =>
      rw [hroster, Roster.isOver_setWorker hworker]
      split
      · rename_i heq
        rw [heq, Roster.isOver, hworker] at hover
        exact absurd (hlive.symm.trans hover) (by decide)
      · exact hover
  | elsewhere hthread hroster hgrips hactive =>
      rw [hroster]
      exact hover

theorem not_mem_of_isOver (hsound : system.Sound) (hrun : run < system.roster.workers.length)
    (hover : system.roster.isOver run = true) {actions : List Action} {last : System}
    {log : List Event} (hactions : system.run actions = some (last, log)) (choice : Choice) :
    Action.step (.worker run) choice ∉ actions := by
  induction actions generalizing system log with
  | nil => exact List.not_mem_nil
  | cons action actions ih =>
      obtain ⟨next, events, later, hstep, hrest, -⟩ := run_cons_case hactions
      have hslot := slotStep hstep
      rw [List.mem_cons, not_or]
      constructor
      · rintro rfl
        rw [isOver_of_stepWorker hstep] at hover
        cases hover
      · exact ih (hsound.step hstep) (Nat.lt_of_lt_of_le hrun hslot.length_le)
          (hslot.isOver hrun hover) hrest

/-! ## Runs that are being stopped -/

/-- The worker of the run is over, or a thread has the run in hand to stop it. -/
def Cornered (system : System) (run : RunId) : Prop :=
  system.roster.isOver run = true ∨ ∃ thread, (system.gripOf thread).stops? = some run

/-- A thread keeps the run that it stops in hand until the worker is over. -/
private theorem stops?_of_runStep {roster roster' : Roster} {before after : Grip}
    (hstep : Call.RunStep thread roster before after roster') (hstops : before.stops? = some run) :
    roster'.isOver run = true ∨ after.stops? = some run := by
  cases hstep with
  | elsewhere hbefore => rcases hbefore with rfl | rfl <;> cases hstops
  | stopFreed old | stopRequested old => exact .inr hstops
  | stopJoined old hover =>
      cases hstops
      exact .inl hover
  | _ => cases hstops

/-- A run that is being stopped is not let go of before its worker is over. -/
theorem SlotStep.cornered (hstep : SlotStep system action next)
    (hrun : run < system.roster.workers.length) (h : system.Cornered run) : next.Cornered run := by
  rcases h with hover | ⟨holder, hholder⟩
  · exact .inl (hstep.isOver hrun hover)
  cases hstep with
  | operation thread hthread hstep hothers hactive =>
      by_cases heq : holder = thread
      · subst heq
        exact (stops?_of_runStep hstep hholder).imp_right fun hstops => ⟨holder, hstops⟩
      · exact .inr ⟨holder, by rw [hothers holder heq]; exact hholder⟩
  | work other worker after hthread hworker hlive hroster hgrips hactive =>
      exact .inr ⟨holder, by rw [hgrips]; exact hholder⟩
  | elsewhere hthread hroster hgrips hactive =>
      exact .inr ⟨holder, by rw [hgrips]; exact hholder⟩

/-- The thread that takes the slot to stop a run leaves no live run but those that are being
stopped. -/
private theorem cornered_of_taking (hguarded : Guarded system.roster system.gripOf)
    (htaking : system.gripOf thread = .stopping .taking)
    (hstep : SlotStep system action next) (hmoved : action.thread? = some thread) (run : RunId) :
    next.Cornered run := by
  cases hstep with
  | work _ _ _ hthread | elsewhere hthread =>
      rw [hmoved] at hthread
      cases hthread
  | operation other hthread hstep hothers hactive =>
      rw [hmoved] at hthread
      cases hthread
      rw [htaking] at hstep
      generalize hafter : next.gripOf thread = after at hstep
      generalize hroster : next.roster = roster at hstep
      cases hstep with
      | elsewhere hbefore => rcases hbefore with hbefore | hbefore <;> cases hbefore
      | stopTook =>
          cases hover : system.roster.isOver run with
          | true => exact .inl (by rw [hroster]; exact hover)
          | false =>
              rcases hguarded.kept run hover with hslot | ⟨holder, hholder⟩
              · exact .inr ⟨thread, by rw [hafter]; exact hslot⟩
              · -- this thread has nothing in hand yet and holds the lock
                have hne : holder ≠ thread := by
                  rintro rfl
                  rw [htaking] at hholder
                  cases hholder
                have hlocks : (system.gripOf holder).locks = false := by
                  by_contra hlocks
                  rw [Bool.not_eq_false] at hlocks
                  exact hne (hguarded.locks_inj hlocks (by rw [htaking]; rfl))
                have hstops := Grip.stops?_of_detached? (Grip.detached?_of_run? hholder hlocks)
                exact .inr ⟨holder, by rw [hothers holder hne]; exact hstops⟩

/-- A thread is on its way to the slot to stop a run. -/
def Approaches (system : System) (thread : Thread) : Prop :=
  system.gripOf thread = .stopping .locking ∨ system.gripOf thread = .stopping .taking

/-- A thread that wants to stop a run gets to the slot and takes it. -/
private theorem approaches_step (hguarded : Guarded system.roster system.gripOf)
    (hstep : SlotStep system action next) (h : system.Approaches thread) :
    next.Approaches thread ∨ ∀ run, next.Cornered run := by
  by_cases hmoved : action.thread? = some thread
  · rcases h with hlocking | htaking
    · refine .inl (.inr ?_)
      cases hstep with
      | work _ _ _ hthread | elsewhere hthread =>
          rw [hmoved] at hthread
          cases hthread
      | operation other hthread hstep hothers hactive =>
          rw [hmoved] at hthread
          cases hthread
          rw [hlocking] at hstep
          generalize next.gripOf thread = after at hstep ⊢
          generalize next.roster = roster at hstep
          cases hstep with
          | elsewhere hbefore => rcases hbefore with hbefore | hbefore <;> cases hbefore
          | stopLocked => rfl
    · exact .inr (cornered_of_taking hguarded htaking hstep hmoved)
  · refine .inl ?_
    -- others leave the thread where it is
    have hsame : next.gripOf thread = system.gripOf thread := by
      cases hstep with
      | operation other hthread hstep hothers hactive =>
          refine hothers thread ?_
          rintro rfl
          exact hmoved hthread
      | work _ _ _ _ _ _ _ hgrips => rw [hgrips]
      | elsewhere _ _ hgrips => rw [hgrips]
    rw [Approaches, hsame]
    exact h

/-- A stop that has begun after the first `count` workers were spawned: it is on its way to the
slot, or it has left none of them live but those that are being stopped. -/
private structure Closing (thread : Thread) (count : Nat) (system : System) : Prop where
  sound : system.Sound
  guarded : Guarded system.roster system.gripOf
  count_le : count ≤ system.roster.workers.length
  closes : system.Approaches thread ∨ ∀ run < count, system.Cornered run

private theorem Closing.step {count : Nat} (h : Closing thread count system)
    (hstep : system.step action = some (next, events)) : Closing thread count next := by
  have hslot := slotStep hstep
  refine ⟨h.sound.step hstep, hslot.guarded h.guarded,
    Nat.le_trans h.count_le hslot.length_le, ?_⟩
  rcases h.closes with happroaches | hcornered
  · exact (approaches_step h.guarded hslot happroaches).imp_right fun hall run _ => hall run
  · exact .inr fun run hlt =>
      hslot.cornered (Nat.lt_of_lt_of_le hlt h.count_le) (hcornered run hlt)

/-! ## The barrier -/

/-- A thread other than this one is busy stopping one of the first `count` workers, which is
not over. -/
def Overlapped (system : System) (thread : Thread) (count : Nat) : Prop :=
  ∃ other run, other ≠ thread ∧ run < count ∧ (system.gripOf other).stops? = some run ∧
    system.roster.isOver run = false

theorem Reachable.guarded {config : EngineConfig} {connected : Bool}
    (h : Reachable config connected system) : Guarded system.roster system.gripOf :=
  h.invariant (guarded_initial config connected)
    (fun hguarded hstep => (slotStep hstep).guarded hguarded)

/-- **When a stop is a barrier.**  A thread has begun a stop in any reachable state, and the
threads take any steps until it has returned.  Then all the workers that had been spawned
before it began are over, exactly when no other thread is still busy stopping one of them.  A
worker that is over takes no part in anything that follows: it writes no frame, changes no
view and makes no report. -/
theorem barrier_iff_not_overlapped {config : EngineConfig} {connected : Bool}
    {start last : System} {actions : List Action} {log : List Event}
    (hreachable : Reachable config connected start)
    (hbegun : start.gripOf thread = .stopping .locking)
    (hrun : start.run actions = some (last, log))
    (hreturned : last.gripOf thread = .free) :
    ((∀ run < start.roster.workers.length, last.roster.isOver run = true) ↔
        ¬last.Overlapped thread start.roster.workers.length) ∧
      ∀ run < start.roster.workers.length, last.roster.isOver run = true →
        ∀ later final shown, last.run later = some (final, shown) →
          ∀ choice, Action.step (.worker run) choice ∉ later := by
  have hclosing : Closing thread start.roster.workers.length last :=
    (along_true start actions).invariant (fun h _ hstep => h.step hstep) hrun
      ⟨hreachable.sound, hreachable.guarded, Nat.le_refl _, .inl (.inl hbegun)⟩
  have hcornered : ∀ run < start.roster.workers.length, last.Cornered run := by
    rcases hclosing.closes with happroaches | hcornered
    · -- a stop that has returned has been to the slot
      rcases happroaches with hgrip | hgrip <;> rw [hreturned] at hgrip <;> cases hgrip
    · exact hcornered
  refine ⟨⟨?_, ?_⟩, ?_⟩
  · rintro hall ⟨other, run, -, hlt, -, hlive⟩
    rw [hall run hlt] at hlive
    cases hlive
  · intro hnone run hlt
    -- a live run is in the hand of another stop
    rcases hcornered run hlt with hover | ⟨other, hstops⟩
    · exact hover
    · by_contra hlive
      refine hnone ⟨other, run, ?_, hlt, hstops, by simpa using hlive⟩
      rintro rfl
      rw [hreturned] at hstops
      cases hstops
  · intro run hlt hover later final shown hlater
    exact not_mem_of_isOver hclosing.sound (Nat.lt_of_lt_of_le hlt hclosing.count_le) hover hlater

/-! ## Two stops -/

/-- A caller has started a run and begins to stop it. -/
private def stopBegun : List Action :=
  launching (.runBounded 1 false) ++ List.replicate 2 (.step (.caller 1) .proceed) ++
    [.begin 1 .stop]

/-- The worker is asked to stop and ends in its first pause. -/
private def stopReturns : List Action :=
  List.replicate 4 (.step (.caller 1) .proceed) ++ proceeding 6 ++
    List.replicate 2 (.step (.caller 1) .proceed)

theorem barrier_of_single_stop :
    let start := (initial .standard true).after stopBegun
    let last := start.after stopReturns
    start.roster.workers.length = 1 ∧ last.answer? 1 = some .done ∧
      last.roster.isOver 0 = true ∧ ¬last.Overlapped (.caller 1) 1 ∧
      ∀ later final shown, last.run later = some (final, shown) →
        ∀ choice, Action.step (.worker 0) choice ∉ later := by
  intro start last
  obtain ⟨_, hbegun⟩ := run_after (initial .standard true) stopBegun (by decide +kernel)
  obtain ⟨_, hrun⟩ := run_after start stopReturns (by decide +kernel)
  have hone : start.roster.workers.length = 1 := by decide +kernel
  have hover : last.roster.isOver 0 = true := by decide +kernel
  have hlocking : start.gripOf (.caller 1) = .stopping .locking := by decide +kernel
  obtain ⟨hbarrier, hquiet⟩ := barrier_iff_not_overlapped ⟨stopBegun, _, hbegun⟩ hlocking hrun
    (by decide +kernel)
  rw [hone] at hbarrier hquiet
  refine ⟨hone, by decide +kernel, hover, hbarrier.mp ?_, hquiet 0 Nat.zero_lt_one hover⟩
  intro run hrun
  obtain rfl : run = 0 := Nat.lt_one_iff.mp hrun
  exact hover

/-- The control thread has taken a run out of the slot and waits for its worker, which is about
to ask for an inventory; a caller begins another stop. -/
private def secondBegun : List Action :=
  launching (.runBounded 1 false) ++ List.replicate 2 (.step (.caller 1) .proceed) ++
    proceeding 3 ++ expiring :: .enqueue .stop ::
    List.replicate 5 (.step .control .proceed) ++ [.begin 1 .stop]

/-- The slot is empty, so that there is nothing to wait for. -/
private def secondReturns : List Action :=
  List.replicate 4 (.step (.caller 1) .proceed)

/-- A stop that overlaps with another one returns while the worker is live, which goes on to
write its request. -/
theorem second_stop_no_barrier :
    let start := (initial .standard true).after secondBegun
    let last := start.after secondReturns
    Reachable .standard true start ∧ start.gripOf (.caller 1) = .stopping .locking ∧
      start.roster.workers.length = 1 ∧ (start.run secondReturns).isSome = true ∧
      last.answer? 1 = some .done ∧ last.roster.isOver 0 = false ∧
      (last.run (proceeding 3)).map (fun entry => framesOf entry.2) =
        some [(Request.inventory 0xFF).frame broadcastAddress] := by
  intro start last
  obtain ⟨_, hbegun⟩ := run_after (initial .standard true) secondBegun (by decide +kernel)
  exact ⟨⟨secondBegun, _, hbegun⟩, by decide +kernel, by decide +kernel, by decide +kernel,
    by decide +kernel, by decide +kernel, by decide +kernel⟩

end System

end TagInventory
