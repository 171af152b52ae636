import Mathlib.Data.List.Induction
import TagInventory.Proofs.Engine.Bystanders

/-!
# The course of a run

A run of a system, as far as one worker is concerned, is a list of moments: the worker takes a
turn, or the reader thread handles a byte (`System.trace`).  A `Course` is such a list with
what it leads to; between two moments others have their turn, of whom only as much is known as
is said of them (`Aside`).

Every run of a system is a course of each of its workers (`System.course_of_run`).  When no
other worker takes part (`Solo`), the others leave the views and the receiver alone
(`System.course_of_solo`).

Courses grow at the end.  What holds at every moment of a run is shown by induction over its
course, and a turn in the middle of it is taken in a state that the moments before it lead to
(`Course.turn_split`).  A worker that is in some region of its places has entered it in a turn
of its own; the course splits there, and goes on inside (`Course.entered`).
-/

namespace TagInventory

/-! ## Moments -/

/-- A step that a worker takes, and the state that it is taken in. -/
structure Turn where
  core : Core
  worker : Worker
  choice : Choice
  advance : Advance Worker

namespace Turn

def frames (turn : Turn) : List Frame :=
  framesOf turn.advance.events

def reports (turn : Turn) : List Report :=
  reportsOf turn.advance.events

/-- Whether the turn commits a cycle. -/
def commits (turn : Turn) : Bool :=
  turn.worker.phase = .committing

theorem commits_iff {turn : Turn} : turn.commits = true ↔ turn.worker.phase = .committing :=
  decide_eq_true_iff

end Turn

/-- What happens in a run as far as one worker is concerned. -/
inductive Moment
  | turn (taken : Turn)
  | byte (core : Core) (received : UInt8)

namespace Moment

def turn? : Moment → Option Turn
  | .turn taken => some taken
  | .byte .. => none

/-- The reply that the moment completes. -/
def reply? : Moment → Option Reply
  | .turn _ => none
  | .byte core received => core.receiver.replyTo? received

end Moment

/-- The turns of a worker, in order. -/
def turnsOf (moments : List Moment) : List Turn :=
  moments.filterMap Moment.turn?

/-- The cycles that were committed, by the turns that committed them. -/
def commitsOf (moments : List Moment) : List Turn :=
  (turnsOf moments).filter Turn.commits

/-- The frames that the worker wrote. -/
def writtenIn (moments : List Moment) : List Frame :=
  (turnsOf moments).flatMap Turn.frames

/-- The reports that the worker made. -/
def reportedIn (moments : List Moment) : List Report :=
  (turnsOf moments).flatMap Turn.reports

/-- The tags that were decoded from records, in order. -/
def readsIn (moments : List Moment) : List TagRead :=
  moments.filterMap fun moment => moment.reply?.bind Reply.tag?

/-- A turn has moments before and after it. -/
theorem split_of_mem_turnsOf {taken : Turn} {moments : List Moment} (h : taken ∈ turnsOf moments) :
    ∃ earlier later, moments = earlier ++ .turn taken :: later := by
  obtain ⟨moment, hmem, hturn⟩ := List.mem_filterMap.mp h
  cases moment with
  | turn other =>
      cases hturn
      exact List.append_of_mem hmem
  | byte core received => cases hturn

theorem commitsOf_append (first second : List Moment) :
    commitsOf (first ++ second) = commitsOf first ++ commitsOf second := by
  rw [commitsOf, turnsOf, List.filterMap_append, List.filter_append]
  rfl

section

variable (moments : List Moment) (taken : Turn) (core : Core) (byte : UInt8)

@[simp] theorem turnsOf_concat_turn :
    turnsOf (moments ++ [.turn taken]) = turnsOf moments ++ [taken] :=
  List.filterMap_append ..

@[simp] theorem turnsOf_concat_byte :
    turnsOf (moments ++ [.byte core byte]) = turnsOf moments := by
  rw [turnsOf, List.filterMap_append, ← turnsOf]
  exact List.append_nil _

theorem forall_turnsOf_nil (P : Turn → Prop) : ∀ turn ∈ turnsOf [], P turn :=
  List.forall_mem_nil _

/-- What holds of every turn up to the last one. -/
theorem forall_turnsOf_concat_turn {P : Turn → Prop} :
    (∀ turn ∈ turnsOf (moments ++ [.turn taken]), P turn) ↔
      (∀ turn ∈ turnsOf moments, P turn) ∧ P taken := by
  rw [turnsOf_concat_turn, List.forall_mem_append, List.forall_mem_singleton]

@[simp] theorem commitsOf_concat_turn :
    commitsOf (moments ++ [.turn taken]) =
      commitsOf moments ++ if taken.commits then [taken] else [] := by
  rw [commitsOf, turnsOf_concat_turn, List.filter_append, ← commitsOf, List.filter_singleton,
    Bool.cond_eq_ite]

@[simp] theorem commitsOf_concat_byte :
    commitsOf (moments ++ [.byte core byte]) = commitsOf moments := by
  rw [commitsOf, turnsOf_concat_byte, ← commitsOf]

@[simp] theorem writtenIn_concat_turn :
    writtenIn (moments ++ [.turn taken]) = writtenIn moments ++ taken.frames := by
  simp [writtenIn]

@[simp] theorem writtenIn_concat_byte :
    writtenIn (moments ++ [.byte core byte]) = writtenIn moments := by
  rw [writtenIn, turnsOf_concat_byte, ← writtenIn]

@[simp] theorem reportedIn_concat_turn :
    reportedIn (moments ++ [.turn taken]) = reportedIn moments ++ taken.reports := by
  simp [reportedIn]

@[simp] theorem reportedIn_concat_byte :
    reportedIn (moments ++ [.byte core byte]) = reportedIn moments := by
  rw [reportedIn, turnsOf_concat_byte, ← reportedIn]

end

namespace System

/-- What an action is for the worker of a run. -/
def moment? (run : RunId) (system : System) : Action → Option Moment
  | .step (.worker other) choice =>
    if other = run then
      (system.roster.worker? run).bind fun worker =>
        (worker.step system.core choice).map fun advance =>
          .turn ⟨system.core, worker, choice, advance⟩
    else none
  | .receive byte => some (.byte system.core byte)
  | _ => none

/-- The moments of a run, up to the first action that is not possible. -/
def trace (run : RunId) (system : System) : List Action → List Moment
  | [] => []
  | action :: actions =>
    match system.step action with
    | some (next, _) => (system.moment? run action).toList ++ next.trace run actions
    | none => []

end System

/-! ## Courses -/

/-- Some moments of a worker with what they lead to.  `Aside` says what others do to the
shared state between two moments. -/
inductive Course (Aside : Core → Core → Prop) (start : Core) (spawned : Worker) :
    List Moment → Core → Worker → Prop
  | nil : Course Aside start spawned [] start spawned
  | turn {moments : List Moment} {core : Core} {worker : Worker}
      (h : Course Aside start spawned moments core worker) {choice : Choice}
      {advance : Advance Worker} (hstep : worker.step core choice = some advance) :
      Course Aside start spawned (moments ++ [.turn ⟨core, worker, choice, advance⟩])
        advance.core advance.next
  | byte {moments : List Moment} {core : Core} {worker : Worker}
      (h : Course Aside start spawned moments core worker) (byte : UInt8) :
      Course Aside start spawned (moments ++ [.byte core byte]) (core.receive byte) worker
  | aside {moments : List Moment} {core after : Core} {worker same : Worker}
      (h : Course Aside start spawned moments core worker) (hcore : Aside core after)
      (hworker : worker.Spared same) :
      Course Aside start spawned moments after same

namespace Course

variable {Aside : Core → Core → Prop} {start core : Core} {spawned worker : Worker}
  {moments earlier later : List Moment}

/-- A turn is taken in a state that the moments before it lead to. -/
theorem turn_split {turn : Turn}
    (h : Course Aside start spawned (earlier ++ .turn turn :: later) core worker) :
    Course Aside start spawned earlier turn.core turn.worker ∧
      turn.worker.step turn.core turn.choice = some turn.advance := by
  generalize hmoments : earlier ++ .turn turn :: later = moments at h
  induction h generalizing later with
  | nil => simp at hmoments
  | turn h hstep ih =>
      cases later using List.reverseRec with
      | nil =>
          obtain ⟨rfl, hlast⟩ := List.append_inj' hmoments rfl
          cases hlast
          exact ⟨h, hstep⟩
      -- the moment that the course ends with is behind the turn
      | append_singleton later last =>
          rw [← List.cons_append, ← List.append_assoc] at hmoments
          exact ih (List.append_inj' hmoments rfl).1
  | byte h byte ih =>
      cases later using List.reverseRec with
      | nil =>
          obtain ⟨-, hlast⟩ := List.append_inj' hmoments rfl
          cases hlast
      | append_singleton later last =>
          rw [← List.cons_append, ← List.append_assoc] at hmoments
          exact ih (List.append_inj' hmoments rfl).1
  | aside h hcore hworker ih => exact ih hmoments

theorem plan_eq (h : Course Aside start spawned moments core worker) :
    worker.plan = spawned.plan := by
  induction h with
  | nil => rfl
  | turn h hstep ih => exact (Worker.step_flow hstep).keeps.1.trans ih
  | byte h byte ih => exact ih
  | aside h hcore hworker ih => exact hworker.plan_eq.trans ih

theorem drained (h : Course Core.Leaves start spawned moments core worker)
    (hdrained : start.session.Drained) : core.session.Drained := by
  induction h with
  | nil => exact hdrained
  | turn h hstep ih =>
      rw [Core.session, Worker.step_receiver_eq hstep]
      split
      · exact ⟨ih.lastError_eq, ih.tagReads_eq⟩
      · exact ih
  | byte h byte ih => exact Core.drained_receive ih byte
  | aside h hcore hworker ih =>
      rw [Core.session, hcore.receiver_eq]
      exact ih

/-- A worker that is inside a region has entered it in a turn of its own, and has not left it
since.  `Entry` says how the region is entered, and `Within` what its turns are like. -/
theorem entered (Inside : WorkerPhase → Prop) {Entry Within : Turn → Prop}
    (h : Course Aside start spawned moments core worker) (hspawned : ¬Inside spawned.phase)
    (hturn : ∀ {moments : List Moment} {turn : Turn},
      Course Aside start spawned moments turn.core turn.worker →
      turn.worker.step turn.core turn.choice = some turn.advance →
      Inside turn.advance.next.phase → Entry turn ∨ Inside turn.worker.phase ∧ Within turn)
    (hinside : Inside worker.phase) :
    ∃ before entry since, moments = before ++ .turn entry :: since ∧ Entry entry ∧
      Course Aside start spawned before entry.core entry.worker ∧
      entry.worker.step entry.core entry.choice = some entry.advance ∧
      Course Aside entry.advance.core entry.advance.next since core worker ∧
      ∀ turn ∈ turnsOf since, Within turn := by
  induction h with
  | nil => exact absurd hinside hspawned
  | @turn moments core worker h choice advance hstep ih =>
      -- the last turn entered the region, or the worker was inside before
      rcases @hturn moments ⟨core, worker, choice, advance⟩ h hstep hinside with
        hentry | ⟨hstayed, hwithin⟩
      · exact ⟨moments, ⟨core, worker, choice, advance⟩, [], rfl, hentry, h, hstep, .nil,
          forall_turnsOf_nil _⟩
      · obtain ⟨before, entry, since, rfl, hentry, hbefore, hentered, hsince, hturns⟩ := ih hstayed
        refine ⟨before, entry, since ++ [.turn ⟨core, worker, choice, advance⟩], by simp, hentry,
          hbefore, hentered, hsince.turn hstep, ?_⟩
        exact (forall_turnsOf_concat_turn _ _).mpr ⟨hturns, hwithin⟩
  | @byte moments core worker h byte ih =>
      obtain ⟨before, entry, since, rfl, hentry, hbefore, hentered, hsince, hturns⟩ := ih hinside
      refine ⟨before, entry, since ++ [.byte core byte], by simp, hentry, hbefore, hentered,
        hsince.byte byte, ?_⟩
      rw [turnsOf_concat_byte]
      exact hturns
  | aside h hcore hworker ih =>
      rw [hworker.phase_eq] at hinside
      obtain ⟨before, entry, since, rfl, hentry, hbefore, hentered, hsince, hturns⟩ := ih hinside
      exact ⟨before, entry, since, rfl, hentry, hbefore, hentered, hsince.aside hcore hworker,
        hturns⟩

/-- Between its turns a worker stays as it is, but for a stop. -/
theorem spared (h : Course Aside start spawned moments core worker)
    (hturns : turnsOf moments = []) : spawned.Spared worker := by
  induction h with
  | nil => exact .inl rfl
  | turn h hstep ih =>
      rw [turnsOf_concat_turn] at hturns
      exact absurd hturns (List.concat_ne_nil _ _)
  | byte h byte ih =>
      rw [turnsOf_concat_byte] at hturns
      exact ih hturns
  | aside h hcore hworker ih =>
      rcases hworker with rfl | rfl
      · exact ih hturns
      · rcases ih hturns with rfl | rfl <;> exact .inr rfl

end Course

/-! ## Runs of a system -/

/-- No other worker takes a step. -/
def Solo (run : RunId) (actions : List Action) : Prop :=
  ∀ other choice, .step (.worker other) choice ∈ actions → other = run

/-- Whether an action is no step of another worker. -/
def Action.isSolo (run : RunId) : Action → Bool
  | .step (.worker other) _ => other = run
  | _ => true

theorem solo_iff_all {run : RunId} {actions : List Action} :
    actions.all (Action.isSolo run) = true ↔ Solo run actions := by
  rw [List.all_eq_true]
  constructor
  · intro h other choice hmem
    exact of_decide_eq_true (h _ hmem)
  · intro h action hmem
    cases action with
    | step task choice =>
        cases task with
        | worker other => exact decide_eq_true (h other choice hmem)
        | caller | control => rfl
    | _ => rfl

instance (run : RunId) (actions : List Action) : Decidable (Solo run actions) :=
  decidable_of_iff _ solo_iff_all

namespace System

variable {system next last : System} {run : RunId} {worker : Worker} {action : Action}
  {actions : List Action} {log events : List Event}

/-- Whether an action is a moment of a run. -/
def IsAside (run : RunId) (action : Action) : Prop :=
  (∀ choice, action ≠ .step (.worker run) choice) ∧ ∀ byte, action ≠ .receive byte

theorem trace_cons (h : system.step action = some (next, events)) :
    system.trace run (action :: actions) =
      (system.moment? run action).toList ++ next.trace run actions := by
  rw [trace, h]

theorem trace_append {more : List Action} (hrun : system.run actions = some (last, log)) :
    system.trace run (actions ++ more) = system.trace run actions ++ last.trace run more := by
  induction actions generalizing system log with
  | nil =>
      cases hrun
      rfl
  | cons action actions ih =>
      obtain ⟨next, events, later, hstep, hrest, rfl⟩ := run_cons_case hrun
      rw [List.cons_append, trace_cons hstep, trace_cons hstep, ih hrest, List.append_assoc]

theorem moment?_of_isAside (h : IsAside run action) : system.moment? run action = none := by
  cases action with
  | step task choice =>
      cases task with
      | worker other =>
          have hne : other ≠ run := by
            rintro rfl
            exact h.1 choice rfl
          rw [moment?, if_neg hne]
      | caller | control => rfl
  | receive byte => exact absurd rfl (h.2 byte)
  | _ => rfl

theorem worker?_of_stepWorker {other : RunId} {choice : Choice} (hne : run ≠ other)
    (hworker : system.roster.worker? run = some worker)
    (h : system.step (.step (.worker other) choice) = some (next, events)) :
    next.roster.worker? run = some worker := by
  obtain ⟨moved, advance, hmoved, -, rfl, -⟩ := stepWorker_case h
  show (system.roster.setWorker other advance.next).worker? run = some worker
  rw [Roster.worker?_setWorker other run _ (by rw [hmoved]; rfl), if_neg hne]
  exact hworker

/-- Only its own turns move a worker. -/
theorem spared_of_isAside (haside : IsAside run action)
    (hworker : system.roster.worker? run = some worker)
    (h : system.step action = some (next, events)) :
    ∃ same, next.roster.worker? run = some same ∧ worker.Spared same := by
  by_cases hother : ∃ other choice, action = .step (.worker other) choice
  · obtain ⟨other, choice, rfl⟩ := hother
    have hne : run ≠ other := by
      rintro rfl
      exact haside.1 choice rfl
    exact ⟨worker, worker?_of_stepWorker hne hworker h, .inl rfl⟩
  · have hbystander : ∀ other choice, action ≠ .step (.worker other) choice :=
      fun other choice heq => hother ⟨other, choice, heq⟩
    exact (step_of_bystander hbystander haside.2 h).2.2 hworker

variable {Aside : Core → Core → Prop} {start core : Core} {spawned : Worker}
  {moments : List Moment}

theorem course_step
    (haside : IsAside run action → Aside system.core next.core)
    (hcourse : Course Aside start spawned moments system.core worker)
    (hworker : system.roster.worker? run = some worker)
    (h : system.step action = some (next, events)) :
    ∃ moved, next.roster.worker? run = some moved ∧
      Course Aside start spawned (moments ++ (system.moment? run action).toList) next.core
        moved := by
  by_cases hown : ∃ choice, action = .step (.worker run) choice
  · obtain ⟨choice, rfl⟩ := hown
    obtain ⟨mover, advance, hmover, hstep, rfl, -⟩ := stepWorker_case h
    rw [hworker] at hmover
    cases hmover
    refine ⟨advance.next, ?_, ?_⟩
    · show (system.roster.setWorker run advance.next).worker? run = some advance.next
      rw [Roster.worker?_setWorker run run _ (by rw [hworker]; rfl), if_pos rfl]
    · have hmoment : system.moment? run (.step (.worker run) choice) =
          some (.turn ⟨system.core, worker, choice, advance⟩) := by
        rw [moment?, if_pos rfl, hworker, Option.bind_some, hstep, Option.map_some]
      rw [hmoment]
      exact hcourse.turn hstep
  · by_cases hbyte : ∃ byte, action = .receive byte
    · obtain ⟨byte, rfl⟩ := hbyte
      rw [step_receive h]
      exact ⟨worker, hworker, hcourse.byte byte⟩
    · -- neither the worker nor a byte: somebody else
      have hside : IsAside run action :=
        ⟨fun choice heq => hown ⟨choice, heq⟩, fun byte heq => hbyte ⟨byte, heq⟩⟩
      obtain ⟨same, hsame, hspared⟩ := spared_of_isAside hside hworker h
      rw [moment?_of_isAside hside]
      refine ⟨same, hsame, ?_⟩
      rw [Option.toList_none, List.append_nil]
      exact hcourse.aside (haside hside) hspared

private theorem course_run
    (haside : ∀ {system next : System} {action : Action} {events : List Event},
      action ∈ actions → IsAside run action → system.step action = some (next, events) →
        Aside system.core next.core)
    (hcourse : Course Aside start spawned moments system.core worker)
    (hworker : system.roster.worker? run = some worker)
    (hrun : system.run actions = some (last, log)) :
    ∃ moved, last.roster.worker? run = some moved ∧
      Course Aside start spawned (moments ++ system.trace run actions) last.core moved := by
  induction actions generalizing system log moments worker with
  | nil =>
      cases hrun
      rw [trace, List.append_nil]
      exact ⟨worker, hworker, hcourse⟩
  | cons action actions ih =>
      obtain ⟨next, events, later, hstep, hrest, rfl⟩ := run_cons_case hrun
      obtain ⟨moved, hmoved, hnext⟩ := course_step
        (fun hside => haside (List.mem_cons_self ..) hside hstep) hcourse hworker hstep
      rw [trace_cons hstep, ← List.append_assoc]
      exact ih (fun hmem => haside (List.mem_cons_of_mem _ hmem)) hnext hmoved hrest

/-- A run of a system is a course of each of its workers, whoever else takes part. -/
theorem course_of_run (hworker : system.roster.worker? run = some worker)
    (hrun : system.run actions = some (last, log)) :
    ∃ moved, last.roster.worker? run = some moved ∧
      Course (fun core after => after.config = core.config) system.core worker
        (system.trace run actions) last.core moved := by
  refine course_run ?_ .nil hworker hrun
  intro system next action events _ hside hstep
  by_cases hother : ∃ other choice, action = .step (.worker other) choice
  · obtain ⟨other, choice, rfl⟩ := hother
    obtain ⟨moved, advance, -, hmoved, rfl, -⟩ := stepWorker_case hstep
    exact Worker.step_config hmoved
  · have hbystander : ∀ other choice, action ≠ .step (.worker other) choice :=
      fun other choice heq => hother ⟨other, choice, heq⟩
    exact (step_of_bystander hbystander hside.2 hstep).1.config_eq

/-- In a run of a single worker the others leave the views and the receiver alone. -/
theorem course_of_solo (hworker : system.roster.worker? run = some worker)
    (hsolo : Solo run actions) (hrun : system.run actions = some (last, log)) :
    ∃ moved, last.roster.worker? run = some moved ∧
      Course Core.Leaves system.core worker (system.trace run actions) last.core moved := by
  refine course_run ?_ .nil hworker hrun
  intro system next action events hmem hside hstep
  have hbystander : ∀ other choice, action ≠ .step (.worker other) choice := by
    rintro other choice rfl
    obtain rfl := hsolo other choice hmem
    exact hside.1 choice rfl
  exact (step_of_bystander hbystander hside.2 hstep).1

/-! ### Actions for examples -/

/-- A caller opens the link, and another one starts a run, up to the moment at which its worker
is there. -/
def launching (operation : Operation) : List Action :=
  .begin 0 .connect :: List.replicate 2 (.step (.caller 0) .proceed) ++
    .begin 1 operation :: List.replicate 5 (.step (.caller 1) .proceed)

/-- The worker that was spawned first goes on. -/
def proceeding (steps : Nat) : List Action :=
  List.replicate steps (.step (.worker 0) .proceed)

/-- It has waited long enough. -/
def expiring : Action :=
  .step (.worker 0) .expire

def arriving (frame : Frame) : List Action :=
  frame.bytes.map .receive

end System

end TagInventory
