import TagInventory.Proofs.Engine.Sends

/-!
# The flag is a latch

Once the link was opened, the flag that says that requests are sent only ever goes down: it goes
down with the first write or read that fails, and stays down.  The main statement says what that
means for everybody.

* While the flag is up, the firmware version is known and nothing has failed.
* When it is down, no frame gets on its way any more.  What is written is what was on its way
  before, and each task writes its own frame once at most.
* A worker ends when it checks the flag for its next request.
* An operation that needs the link is answered with what it says when there is none
  (`Operation.declined?`), within two steps of its own, and leaves the runs alone.

## Strategy

Whether a frame is on its way is known from `SendStep`.  An operation that is declined is in
one of a few places (`Declining`), each of which is a number of steps away from the answer; a
worker that checks the flag is two steps away from its end (`Worker.Ending`).  Others do not move
them, so that the number of their own steps is all that counts.
-/

namespace TagInventory

/-! ## Operations that are declined -/

/-- The answer of an operation when the flag is down, if the operation depends on it. -/
def Operation.declined? : Operation → Option Answer
  | execute code payload | executeAndWait code payload =>
    match Request.ofRaw code payload with
    | .ok _ => some (.refused .notInitialized)
    | .error failure => some (.refused failure)
  | startContinuous _ | runBounded .. | runClosing | findBrokenLabels _ | startIdle =>
    some (.refused .notInitialized)
  | radioSettings => some (.settings none)
  | connect | stop | reportContents | close => none

/-- The places of an operation that is about to be declined, with the answer and the number of
steps until it is given. -/
inductive Declining : Call → Answer → Nat → Prop
  | executing (request : Request) : Declining (.executing request) (.refused .notInitialized) 1
  | opening (request : Request) : Declining (.asking request .opening) (.refused .notInitialized) 2
  | checking (request : Request) (ticket : Ticket) :
      Declining (.asking request (.checking ticket)) (.refused .notInitialized) 1
  | sizing : Declining .sizingClosing (.refused .notInitialized) 2
  | starting (plan : RunPlan) : Declining (.starting plan .checking) (.refused .notInitialized) 1
  | checkingIdle : Declining .checkingIdle (.settings none) 1
  | finished (answer : Answer) : Declining (.finished answer) answer 0

/-- An operation that depends on the flag is two steps away from its answer at most. -/
theorem Operation.declining_begin {operation : Operation} {answer : Answer}
    (h : operation.declined? = some answer) :
    ∃ left ≤ 2, Declining operation.begin answer left := by
  cases operation with
  | execute code payload =>
      rw [begin, beginRaw]
      cases hrequest : Request.ofRaw code payload <;> rw [declined?, hrequest] at h <;> cases h
      · exact ⟨0, by decide, .finished _⟩
      · exact ⟨1, by decide, .executing _⟩
  | executeAndWait code payload =>
      rw [begin, beginRaw]
      cases hrequest : Request.ofRaw code payload <;> rw [declined?, hrequest] at h <;> cases h
      · exact ⟨0, by decide, .finished _⟩
      · exact ⟨2, by decide, .opening _⟩
  | startContinuous | runBounded | findBrokenLabels | startIdle =>
      cases h
      exact ⟨1, by decide, .starting _⟩
  | runClosing =>
      cases h
      exact ⟨2, by decide, .sizing⟩
  | radioSettings =>
      cases h
      exact ⟨1, by decide, .checkingIdle⟩
  | connect | stop | reportContents | close => cases h

namespace Declining

variable {engine : Engine} {thread : Thread} {choice : Choice} {call : Call} {answer : Answer}
  {left : Nat}

/-- A step brings the answer nearer, writes nothing and leaves the runs alone. -/
theorem step {advance : CallAdvance Call} (h : Declining call answer left)
    (hdown : engine.core.initialized = false)
    (hstep : call.step engine thread choice = some advance) :
    ∃ fewer, left = fewer + 1 ∧ Declining advance.next answer fewer ∧
      framesOf advance.events = [] ∧ advance.engine.roster = engine.roster ∧
      advance.engine.core.inventoryActive = engine.core.inventoryActive := by
  cases h with
  | executing request | starting plan | checkingIdle =>
      cases choice <;>
        simp only [Call.step, Call.start, Call.moveCore, hdown, Bool.false_eq_true, false_and,
          if_false, reduceCtorEq] at hstep
      cases hstep
      exact ⟨0, rfl, .finished _, rfl, rfl, rfl⟩
  | opening request =>
      cases choice <;> cases hstep
      exact ⟨1, rfl, .checking request _, rfl, rfl, rfl⟩
  | checking request ticket =>
      simp only [Call.step, Call.ask, Option.map_eq_some_iff] at hstep
      obtain ⟨inner, hinner, rfl⟩ := hstep
      cases Exchange.step_case hinner with
      | checked _ hflag =>
          rw [hdown] at hflag
          cases hflag
      | withheld => exact ⟨0, rfl, .finished _, rfl, rfl, rfl⟩
  | sizing =>
      cases choice <;> cases hstep
      exact ⟨1, rfl, .starting _, rfl, rfl, rfl⟩
  | finished answer => cases choice <;> cases hstep

/-- As long as the answer is missing, nothing stands in the way of the next step. -/
theorem isSome_step (h : Declining call answer (left + 1))
    (hdown : engine.core.initialized = false) :
    call.answer? = none ∧ (call.step engine thread .proceed).isSome = true := by
  cases h with
  | checking request ticket =>
      refine ⟨rfl, ?_⟩
      simp [Call.step, Call.ask, Exchange.step, hdown]
  | executing | starting | checkingIdle =>
      refine ⟨rfl, ?_⟩
      simp [Call.step, Call.start, Call.moveCore, hdown]
  | opening | sizing => exact ⟨rfl, rfl⟩

end Declining

/-! ## Workers that end -/

/-- The places of a worker that is about to end, with the number of steps until it does. -/
inductive Worker.Ending : WorkerPhase → Nat → Prop
  | checking (stage : PollStage) (ticket : Ticket) : Ending (.asking stage (.checking ticket)) 2
  | leaving (failure : Option Failure) : Ending (.leaving failure) 1
  | exited : Ending .exited 0

namespace Worker.Ending

variable {core : Core} {worker : Worker} {choice : Choice} {left : Nat}

theorem step {advance : Advance Worker} (h : Ending worker.phase left)
    (hdown : core.initialized = false) (hstep : worker.step core choice = some advance) :
    ∃ fewer, left = fewer + 1 ∧ Ending advance.next.phase fewer := by
  generalize hphase : worker.phase = phase at h
  cases h with
  | checking stage ticket =>
      obtain ⟨inner, hinner, rfl⟩ := step_of_asking hphase hstep
      cases Exchange.step_case hinner with
      | checked _ hflag =>
          rw [hdown] at hflag
          cases hflag
      | withheld => cases stage <;> exact ⟨1, rfl, .leaving _⟩
  | leaving failure =>
      unfold Worker.step at hstep
      cases choice <;> simp only [hphase, reduceCtorEq] at hstep
      cases hstep
      exact ⟨0, rfl, .exited⟩
  | exited =>
      unfold Worker.step at hstep
      cases choice <;> simp only [hphase, reduceCtorEq] at hstep

theorem isSome_step (h : Ending worker.phase (left + 1)) (hdown : core.initialized = false) :
    (worker.step core .proceed).isSome = true := by
  generalize hphase : worker.phase = phase at h
  cases h with
  | checking stage ticket =>
      rw [step_asking hphase, Option.isSome_map]
      simp [Exchange.step, hdown]
  | leaving failure =>
      unfold Worker.step
      simp only [hphase]
      rfl

end Worker.Ending

namespace System

variable {system next start last : System} {action : Action} {actions : List Action}
  {events log : List Event} {thread : Thread} {config : EngineConfig} {connected : Bool}

/-! ## Runs -/

/-- The steps of a thread leave the runs and their flag alone. -/
def SparesRuns (thread : Thread) (system : System) (action : Action) : Prop :=
  action.task? = some thread.task → ∀ next events, system.step action = some (next, events) →
    next.roster = system.roster ∧ next.core.inventoryActive = system.core.inventoryActive

/-- A thread whose operation is declined comes nearer to its answer by its own steps. -/
private theorem declining_measured (thread : Thread) (answer : Answer) :
    Measured thread Down (fun _ action => action.connects = false)
      fun call left pending => Declining call answer left ∧ pending = [] where
  keeps hdown hallowed hstep := hdown.step hallowed hstep
  nears := by
    rintro system choice call left pending advance hdown - ⟨hdeclining, rfl⟩ hstep
    obtain ⟨fewer, hfewer, hnearer, hframes, -⟩ := hdeclining.step hdown.flag hstep
    exact ⟨fewer, [], hfewer, ⟨hnearer, rfl⟩, by rw [hframes]; rfl⟩

private theorem declining_run (hdown : start.Down)
    (hactions : ∀ action ∈ actions, action.connects = false)
    (hrun : start.run actions = some (last, log)) (hbusy : start.Along (Busy thread) actions)
    {call : Call} {answer : Answer} {left : Nat} (hplace : start.placeOf thread = some call)
    (hdeclining : Declining call answer left) :
    last.Down ∧ start.writtenBy thread.task actions = [] ∧
      ∃ reached fewer, last.placeOf thread = some reached ∧ Declining reached answer fewer ∧
        fewer + stepsOf thread.task actions = left := by
  have halong : start.Along (fun _ action => action.connects = false) actions :=
    along_of_forall (fun action h _ => hactions action h) start
  obtain ⟨hlast, reached, fewer, later, hreached, ⟨hnearer, rfl⟩, hwritten, hcount⟩ :=
    (declining_measured thread answer).run hrun hbusy halong hdown hplace ⟨hdeclining, rfl⟩
  rw [List.append_nil] at hwritten
  exact ⟨hlast, hwritten, reached, fewer, hreached, hnearer, hcount⟩

private theorem declining_spares (hdown : start.Down)
    (hactions : ∀ action ∈ actions, action.connects = false)
    (hbusy : start.Along (Busy thread) actions) {call : Call} {answer : Answer} {left : Nat}
    (hplace : start.placeOf thread = some call) (hdeclining : Declining call answer left) :
    start.Along (SparesRuns thread) actions := by
  have halong : start.Along (fun _ action => action.connects = false) actions :=
    along_of_forall (fun action h _ => hactions action h) start
  refine (hbusy.and halong).of_invariant (P := fun system => system.Down ∧
    ∃ call left, system.placeOf thread = some call ∧ Declining call answer left) ?_
    ⟨hdown, call, left, hplace, hdeclining⟩
  rintro system next action events ⟨hdown, call, left, hplace, hdeclining⟩ ⟨hstays, hallowed⟩ hstep
  have hnext := hdown.step hallowed hstep
  cases placeStep hstep thread with
  | carried choice before advance haction hbefore hown hengine hafter =>
      rw [hplace] at hbefore
      cases hbefore
      obtain ⟨fewer, -, hnearer, -, hroster, hactive⟩ := hdeclining.step hdown.flag hown
      refine ⟨⟨hnext, _, fewer, hafter, hnearer⟩, ?_⟩
      intro _ other shown hother
      rw [hstep] at hother
      cases hother
      rw [roster, core, hengine]
      exact ⟨hroster, hactive⟩
  | turned hthread hbefore => exact absurd (hstays hthread) hbefore
  | stays hthread hsame =>
      exact ⟨⟨hnext, call, left, hsame.trans hplace, hdeclining⟩,
        fun htask => absurd htask (Action.task?_ne_of_thread?_ne hthread)⟩

/-- The worker of a run is in one of the places before its end. -/
def EndsIn (system : System) (run : RunId) (left : Nat) : Prop :=
  ∃ worker, system.roster.worker? run = some worker ∧ Worker.Ending worker.phase left

private theorem endsIn_step {run : RunId} {left : Nat} (hdown : system.Down)
    (hends : system.EndsIn run left) (h : system.step action = some (next, events)) :
    (action.task? = some (.worker run) ∧ ∃ fewer, left = fewer + 1 ∧ next.EndsIn run fewer) ∨
      (action.task? ≠ some (.worker run) ∧ next.EndsIn run left) := by
  obtain ⟨worker, hworker, hending⟩ := hends
  cases actionStep h with
  | carried thread choice call advance haction _ hcall hengine =>
      refine .inr ⟨by simp [haction, thread.task_ne_worker run], ?_⟩
      -- an operation may ask the worker to stop, but does not move it
      obtain ⟨same, hsame, hspared⟩ := (Call.step_runs hcall).1.spared hworker
      refine ⟨same, by rw [roster, hengine]; exact hsame, ?_⟩
      rw [hspared.phase_eq]
      exact hending
  | worked other choice before advance haction hbefore hstep _ hroster =>
      have hset := Roster.worker?_setWorker other run advance.next (by rw [hbefore]; rfl)
      rw [← hroster] at hset
      by_cases heq : run = other
      · subst heq
        rw [hworker] at hbefore
        cases hbefore
        obtain ⟨fewer, hfewer, hnearer⟩ := hending.step hdown.flag hstep
        exact .inl ⟨by rw [haction]; rfl, fewer, hfewer, _, hset.trans (if_pos rfl), hnearer⟩
      · have hsame : next.roster.worker? run = some worker :=
          calc next.roster.worker? run = system.roster.worker? run := hset.trans (if_neg heq)
            _ = some worker := hworker
        refine .inr ⟨?_, worker, hsame, hending⟩
        rw [haction]
        intro htask
        cases htask
        exact heq rfl
  | turned thread hthread _ _ _ _ _ hroster =>
      refine .inr ⟨?_, worker, by rw [hroster]; exact hworker, hending⟩
      intro htask
      cases action with
      | step task choice =>
          cases htask
          cases hthread
      | _ => cases htask
  | aside _ htask _ hroster =>
      refine .inr ⟨by simp [htask], worker, by rw [hroster]; exact hworker, hending⟩

/-- A worker that is about to end comes nearer to its end by its own steps. -/
private theorem endsIn_run {run : RunId} {left : Nat} (hdown : start.Down)
    (hactions : ∀ action ∈ actions, action.connects = false)
    (hrun : start.run actions = some (last, log)) (hends : start.EndsIn run left) :
    last.Down ∧ ∃ fewer, last.EndsIn run fewer ∧
      fewer + stepsOf (.worker run) actions = left := by
  induction actions generalizing start log left with
  | nil =>
      cases hrun
      exact ⟨hdown, left, hends, rfl⟩
  | cons action actions ih =>
      obtain ⟨next, events, later, hstep, hrest, -⟩ := run_cons_case hrun
      rw [List.forall_mem_cons] at hactions
      have hnext := hdown.step hactions.1 hstep
      rcases endsIn_step hdown hends hstep with ⟨htask, fewer, rfl, hnearer⟩ | ⟨htask, hsame⟩
      · obtain ⟨hlast, rest, hrests, hcount⟩ := ih hnext hactions.2 hrest hnearer
        refine ⟨hlast, rest, hrests, ?_⟩
        rw [stepsOf_cons_of_eq htask]
        omega
      · rw [stepsOf_cons_of_ne htask]
        exact ih hnext hactions.2 hrest hsame

/-! ## The latch -/

private theorem latched_run (hreachable : Reachable config connected start)
    (hsettled : start.Settled) (hactions : ∀ action ∈ actions, action.connects = false)
    (hrun : start.run actions = some (last, log)) (hflag : last.core.initialized = true) :
    start.core.initialized = true ∧ last.core.session.firmware.isSome = true ∧
      start.Along (fun system action => system.linkFails action = false) actions := by
  induction actions generalizing start log with
  | nil =>
      cases hrun
      exact ⟨hflag, hreachable.firmware_of_initialized hsettled hflag, trivial⟩
  | cons action actions ih =>
      obtain ⟨next, events, later, hstep, hrest, -⟩ := run_cons_case hrun
      rw [List.forall_mem_cons] at hactions
      obtain ⟨hnext, hfirmware, hlater⟩ :=
        ih (hreachable.step hstep) (hsettled.step hactions.1 hstep) hactions.2 hrest
      -- the flag is up afterwards, so that nothing can have taken it down
      have hnever {P : Prop} (hdown : next.core.initialized = false) : P := by
        rw [hdown] at hnext
        cases hnext
      refine ⟨?_, hfirmware, ?_⟩
      · by_contra hbefore
        exact hnever (down_step hsettled (by simpa using hbefore) hstep)
      · intro other shown hother
        rw [hstep] at hother
        cases hother
        refine ⟨?_, hlater⟩
        by_contra hfails
        exact hnever (initialized_of_linkFails hstep (by simpa using hfails))

/-- **The flag is a latch.**  Any reachable engine whose link nobody is opening, and any
interleaving from there in which nobody begins to open it:

* If the flag is up in the end, it was up all the time, the firmware version is known, and
  neither a write nor a read has failed.
* If it was down at first, then what is written was on its way at first, and each task writes
  at most the one frame that it had on its way.
* A worker that was about to check the flag is over, or it is less than two steps of its own
  from there, and the next one is possible.
* A thread that had begun an operation which depends on the flag, and begins no other one,
  writes nothing and leaves the runs alone.  It has the answer that the operation is declined
  with, or it is less than two steps of its own from there, and the next one is possible. -/
theorem initialized_latches (hreachable : Reachable config connected start)
    (hsettled : start.Settled) (hactions : ∀ action ∈ actions, action.connects = false)
    (hrun : start.run actions = some (last, log)) :
    (last.core.initialized = true →
        start.core.initialized = true ∧ last.core.session.firmware.isSome = true ∧
          start.Along (fun system action => system.linkFails action = false) actions) ∧
      (start.core.initialized = false →
        (∀ frame ∈ framesOf log, ∃ task, start.outgoing? task = some frame) ∧
          (∀ task, start.writtenBy task actions <+: (start.outgoing? task).toList) ∧
          (∀ run worker stage ticket, start.roster.worker? run = some worker →
            worker.phase = .asking stage (.checking ticket) →
              last.roster.isOver run = true ∨
                stepsOf (.worker run) actions < 2 ∧
                  (last.step (.step (.worker run) .proceed)).isSome = true) ∧
          ∀ thread (operation : Operation) answer, start.placeOf thread = some operation.begin →
            operation.declined? = some answer → start.Along (Busy thread) actions →
              start.writtenBy thread.task actions = [] ∧
                start.Along (SparesRuns thread) actions ∧
                (last.placeOf thread = some (.finished answer) ∨
                  stepsOf thread.task actions < 2 ∧
                    (last.step (.step thread.task .proceed)).isSome = true)) := by
  refine ⟨latched_run hreachable hsettled hactions hrun, ?_⟩
  intro hflag
  have hdown : start.Down := ⟨hreachable.sound, hsettled, hflag⟩
  refine ⟨fun frame => hdown.mem_outgoing hactions hrun, hdown.writtenBy_prefix hactions hrun,
    ?_, ?_⟩
  · intro run worker stage ticket hworker hphase
    obtain ⟨hlast, left, ⟨reached, hreached, hending⟩, hcount⟩ :=
      endsIn_run hdown hactions hrun ⟨worker, hworker, by rw [hphase]; exact .checking _ _⟩
    cases left with
    | zero =>
        refine .inl ?_
        -- no step is left, so that the worker has exited
        generalize hwhere : reached.phase = phase at hending
        cases hending
        rw [Roster.isOver, hreached]
        simp [Worker.exited, hwhere]
    | succ left =>
        refine .inr ⟨by omega, ?_⟩
        show (last.stepWorker run .proceed).isSome = true
        rw [stepWorker, hreached, Option.bind_some, Option.isSome_map]
        exact hending.isSome_step hlast.flag
  · intro thread operation answer hplace hdeclined hbusy
    obtain ⟨left, hle, hdeclining⟩ := Operation.declining_begin hdeclined
    obtain ⟨hlast, hwritten, reached, fewer, hreached, hnearer, hcount⟩ :=
      declining_run hdown hactions hrun hbusy hplace hdeclining
    refine ⟨hwritten, declining_spares hdown hactions hbusy hplace hdeclining, ?_⟩
    cases fewer with
    | zero =>
        cases hnearer
        exact .inl hreached
    | succ fewer =>
        obtain ⟨hanswer, hsome⟩ := hnearer.isSome_step hlast.flag
        exact .inr ⟨by omega, isSome_step_of_place hreached hanswer hsome⟩

/-- A link is opened and a run is started, whose worker is about to ask for an inventory. -/
private def workerAsks : List Action :=
  .begin 0 .connect :: List.replicate 5 (.step (.caller 0) .proceed) ++
    arriving (.make 0xFF 0x72 [1, 2]) ++ List.replicate 2 (.step (.caller 0) .proceed) ++
    .begin 1 (.runBounded 1 false) :: List.replicate 7 (.step (.caller 1) .proceed) ++
    proceeding 3 ++ [expiring] ++ proceeding 1

/-- A read fails, and the caller begins to start another run. -/
private def readBreaks : List Action :=
  [.readFails "gone", .begin 1 .startIdle]

/-- The caller is refused, and the worker ends. -/
private def bothGiveUp : List Action :=
  .step (.caller 1) .proceed :: proceeding 2

theorem latched_after_read_failure :
    let healthy := (initial .standard true).after workerAsks
    let start := healthy.after readBreaks
    let last := start.after bothGiveUp
    healthy.core.initialized = true ∧ healthy.core.session.firmware.isSome = true ∧
      start.core.initialized = false ∧ start.writtenBy (.worker 0) bothGiveUp = [] ∧
      last.roster.isOver 0 = true ∧ start.writtenBy (.caller 1) bothGiveUp = [] ∧
      last.placeOf (.caller 1) = some (.finished (.refused .notInitialized)) := by
  intro healthy start last
  obtain ⟨_, hasks⟩ := run_after (initial .standard true) workerAsks (by decide +kernel)
  obtain ⟨_, hbreaks⟩ := run_after healthy readBreaks (by decide +kernel)
  obtain ⟨_, hgives⟩ := run_after start bothGiveUp (by decide +kernel)
  have hhealthy : Reachable .standard true healthy := ⟨workerAsks, _, hasks⟩
  have hup : healthy.core.initialized = true := by decide +kernel
  have hdown : start.core.initialized = false := by decide +kernel
  obtain ⟨-, hfirmware, -⟩ := (initialized_latches hhealthy (settled_of_all (by decide +kernel))
    (List.forall_mem_nil _) (run_nil healthy)).1 hup
  obtain ⟨-, hwritten, hworker, hcaller⟩ := (initialized_latches (hhealthy.run hbreaks)
    (settled_of_all (by decide +kernel)) (by decide) hgives).2 hdown
  have hplace : start.placeOf (.caller 1) = some (Operation.begin .startIdle) := by decide +kernel
  have hbusy : start.Along (Busy (.caller 1)) bothGiveUp := by decide +kernel
  have houtgoing : start.outgoing? (.worker 0) = none := by decide +kernel
  have hchecking : (start.roster.worker? 0).map Worker.phase =
      some (.asking .inventory (.checking 1)) := by decide +kernel
  obtain ⟨worker, hasking, hphase⟩ := Option.map_eq_some_iff.mp hchecking
  refine ⟨hup, hfirmware, hdown, ?_, ?_, ?_⟩
  · have hprefix := hwritten (.worker 0)
    rw [houtgoing] at hprefix
    exact List.prefix_nil.mp hprefix
  · rcases hworker 0 worker .inventory 1 hasking hphase with hover | ⟨hsteps, -⟩
    · exact hover
    · exact absurd hsteps (by decide)
  · obtain ⟨hnone, -, hanswer | ⟨-, hsome⟩⟩ := hcaller (.caller 1) .startIdle _ hplace rfl hbusy
    · exact ⟨hnone, hanswer⟩
    · exact absurd hsome (by decide +kernel)

/-- That worker has found the flag up, and a caller has sent a request and waits for its answer. -/
private def bothUnderway : List Action :=
  workerAsks ++ proceeding 1 ++
    .begin 2 (.executeAndWait 0x81 []) :: List.replicate 3 (.step (.caller 2) .proceed)

/-- What was underway when a read failed is not called back: the worker writes one more frame,
and the caller is answered that the time is over, not that requests are not sent. -/
theorem underway_after_read_failure :
    let start := (initial .standard true).after bothUnderway
    let broken := start.after [.readFails "gone"]
    Reachable .standard true start ∧ start.Settled ∧ start.core.initialized = true ∧
      (start.run [.readFails "gone"]).isSome = true ∧ broken.core.initialized = false ∧
      (broken.run [.step (.worker 0) .proceed]).map (fun entry => framesOf entry.2) =
        some [(Request.inventory 0xFF).frame broadcastAddress] ∧
      (broken.run [.step (.caller 2) .expire]).bind (fun entry => entry.1.answer? 2) =
        some (.outcome .timedOut) := by
  intro start broken
  obtain ⟨_, hunderway⟩ := run_after (initial .standard true) bothUnderway (by decide +kernel)
  exact ⟨⟨bothUnderway, _, hunderway⟩, settled_of_all (by decide +kernel), by decide +kernel,
    by decide +kernel, by decide +kernel, by decide +kernel, by decide +kernel⟩

end System

end TagInventory
