import TagInventory.Proofs.Engine.Exchanges
import TagInventory.Proofs.Engine.Shown

/-!
# What a step of a worker does

A step of a worker has four effects, and each of them is known from its place alone:

* the way that it goes and the frames that it writes on it (`Worker.Flow`, one case for each
  way out of a place);
* one operation on the views (`Worker.operation?`), or none;
* the report that it makes (`WorkerPhase.reports`);
* the receiver stays as it is, but for the count that is set to zero together with opening
  the wait for it.

Nothing else about `Worker.step` is needed to follow a run.
-/

namespace TagInventory

/-- The frame of a stage. -/
def PollStage.frame (config : EngineConfig) (stage : PollStage) : Frame :=
  (stage.question config).request.frame config.readerAddress

/-- Whether the request of an exchange was written. -/
def Exchange.isWritten : Exchange → Bool
  | awaiting _ => true
  | _ => false

/-- The number of polls that is read for a cycle. -/
def RunPlan.polls (core : Core) : RunPlan → Nat
  | .continuous true => core.pollCount.toNat
  | _ => 1

namespace Worker

/-- Where a worker goes after a report. -/
def afterReport (worker : Worker) : WorkerPhase :=
  match worker.plan with
  | .bounded .. => .leaving none
  | .continuous _ => .pausing
  | .idle => .idling

/-- Where a worker goes after a cycle. -/
def afterCommit (core : Core) (worker : Worker) : WorkerPhase :=
  match worker.plan with
  | .bounded .. => .spacing
  | .continuous requireFinalResult =>
    if requireFinalResult ∧ !core.tags.difference.isEmpty then
      .reporting (.change core.tags.difference.removed core.tags.difference.added)
    else .pausing
  | .idle => .collecting

/-- The ways of a worker, with the frames that are written on them. -/
inductive Flow (core : Core) (worker : Worker) : Choice → List Frame → Worker → Prop
  -- between two cycles
  | begun (hphase : worker.phase = .starting) (hplan : worker.plan ≠ .idle) :
      Flow core worker .proceed [] (worker.goto .choosing)
  | rested (hphase : worker.phase = .starting ∨ worker.phase = .choosing)
      (hplan : worker.plan = .idle) :
      Flow core worker .proceed [] (worker.goto .idling)
  | scheduled {cycles : UInt64} {diagnostic : Bool} (hphase : worker.phase = .choosing)
      (hplan : worker.plan = .bounded cycles diagnostic)
      (hmore : worker.completed < cycles.toNat) :
      Flow core worker .proceed [] (worker.goto .openingCycle)
  | finished {cycles : UInt64} {diagnostic : Bool} (hphase : worker.phase = .choosing)
      (hplan : worker.plan = .bounded cycles diagnostic)
      (hdone : ¬worker.completed < cycles.toNat) :
      Flow core worker .proceed [] (worker.goto .collecting)
  | continued {requireFinalResult : Bool} (hphase : worker.phase = .choosing)
      (hplan : worker.plan = .continuous requireFinalResult)
      (hstop : worker.stopRequested = false) :
      Flow core worker .proceed [] (worker.goto .tuning)
  | ceased {requireFinalResult : Bool} (hphase : worker.phase = .choosing)
      (hplan : worker.plan = .continuous requireFinalResult)
      (hstop : worker.stopRequested = true) :
      Flow core worker .proceed [] (worker.goto (.leaving none))
  | tuned (hphase : worker.phase = .tuning) :
      Flow core worker .proceed []
        { worker with
          phase := .openingCycle
          attempts := max (worker.plan.polls core) 1
          interval := core.pollInterval }
  | woke (hphase : worker.phase = .idling) (hstop : worker.stopRequested = false) :
      Flow core worker .expire [] (worker.goto .waking)
  | roused (hphase : worker.phase = .waking) :
      Flow core worker .proceed [] (worker.goto .openingCycle)
  -- in a cycle
  | opened (hphase : worker.phase = .openingCycle) :
      Flow core worker .proceed [] { worker with phase := .settling, attempt := 0 }
  | settled (hphase : worker.phase = .settling) (hstop : worker.stopRequested = false) :
      Flow core worker .expire [] (worker.goto (.asking .inventory .opening))
  | hurried (hphase : worker.phase = .settling) (hstop : worker.stopRequested = true) :
      Flow core worker .proceed [] (worker.goto .checkingStop)
  | registered {stage : PollStage} (hphase : worker.phase = .asking stage .opening) :
      Flow core worker .proceed []
        (worker.goto (.asking stage (.checking core.waits.issued)))
  | checked {stage : PollStage} {ticket : Ticket}
      (hphase : worker.phase = .asking stage (.checking ticket)) :
      Flow core worker .proceed [] (worker.goto (.asking stage (.writing ticket)))
  | wrote {stage : PollStage} {ticket : Ticket}
      (hphase : worker.phase = .asking stage (.writing ticket)) :
      Flow core worker .proceed [stage.frame core.config]
        (worker.goto (.asking stage (.awaiting ticket)))
  | failed {stage : PollStage} {exchange : Exchange} {choice : Choice} {failure : Failure}
      (hphase : worker.phase = .asking stage exchange)
      (hexchange : ∀ ticket, exchange ≠ .awaiting ticket) :
      Flow core worker choice [] (worker.goto (.leaving (some failure)))
  | inventoried {ticket : Ticket} {choice : Choice}
      (hphase : worker.phase = .asking .inventory (.awaiting ticket)) :
      Flow core worker choice [] (worker.goto (.asking .count .opening))
  | counted {ticket : Ticket} (hphase : worker.phase = .asking .count (.awaiting ticket))
      (houtcome : core.waits.outcome? ticket = some .completed) :
      Flow core worker .proceed [] (worker.goto .counting)
  | uncounted {ticket : Ticket} {choice : Choice}
      (hphase : worker.phase = .asking .count (.awaiting ticket))
      (houtcome : choice = .proceed → core.waits.outcome? ticket ≠ some .completed) :
      Flow core worker choice [] (worker.goto .checkingStop)
  | empty (hphase : worker.phase = .counting) (hcount : core.session.tagCount = 0) :
      Flow core worker .proceed [] (worker.goto .checkingStop)
  | found (hphase : worker.phase = .counting) (hcount : core.session.tagCount ≠ 0) :
      Flow core worker .proceed []
        (worker.goto (.asking (.buffer core.session.tagCount) .opening))
  | read {announced : UInt16} {ticket : Ticket} {choice : Choice}
      (hphase : worker.phase = .asking (.buffer announced) (.awaiting ticket)) :
      Flow core worker choice [] (worker.goto (.absorbing announced))
  | absorbed {announced : UInt16} (hphase : worker.phase = .absorbing announced) :
      Flow core worker .proceed [] (worker.goto .checkingStop)
  | again (hphase : worker.phase = .checkingStop) (hstop : worker.stopRequested = false)
      (hmore : worker.attempt + 1 < worker.attempts) :
      Flow core worker .proceed []
        { worker with phase := .settling, attempt := worker.attempt + 1 }
  | polled (hphase : worker.phase = .checkingStop) (hstop : worker.stopRequested = false)
      (hlast : ¬worker.attempt + 1 < worker.attempts) :
      Flow core worker .proceed [] (worker.goto .committing)
  | committed (hphase : worker.phase = .committing) :
      Flow core worker .proceed [] (worker.goto (worker.afterCommit core))
  | spaced {cycles : UInt64} {diagnostic : Bool} (hphase : worker.phase = .spacing)
      (hplan : worker.plan = .bounded cycles diagnostic)
      (hmore : worker.completed + 1 < cycles.toNat) :
      Flow core worker .proceed []
        { worker with
          phase := .pausing, completed := worker.completed + 1, interval := core.pollInterval }
  | unspaced (hphase : worker.phase = .spacing)
      (hlast : ∀ cycles diagnostic, worker.plan = .bounded cycles diagnostic →
        ¬worker.completed + 1 < cycles.toNat) :
      Flow core worker .proceed []
        { worker with
          phase := .choosing, completed := worker.completed + 1, interval := core.pollInterval }
  | resumed (hphase : worker.phase = .pausing) (hstop : worker.stopRequested = false) :
      Flow core worker .expire [] (worker.goto .choosing)
  -- reports, and the end
  | collected (hphase : worker.phase = .collecting) :
      Flow core worker .proceed []
        (worker.goto (.reporting (finalReport worker.plan core.tags)))
  | reported {report : Report} (hphase : worker.phase = .reporting report) :
      Flow core worker .proceed [] (worker.goto worker.afterReport)
  | stopped (hphase : worker.phase = .idling ∨ worker.phase = .checkingStop ∨
        worker.phase = .pausing)
      (hstop : worker.stopRequested = true) :
      Flow core worker .proceed [] (worker.goto (.leaving none))
  | left {failure : Option Failure} (hphase : worker.phase = .leaving failure) :
      Flow core worker .proceed [] (worker.goto .exited)

/-- What the next step does to the views. -/
def operation? (worker : Worker) : Option TagOperation :=
  match worker.phase with
  | .starting =>
    match worker.plan with
    | .bounded _ diagnostic => some (.beginRun diagnostic)
    | .continuous _ => some (.beginRun false)
    | .idle => none
  | .waking => some (.beginRun false)
  | .openingCycle => some .beginCycle
  | .asking (.buffer _) .opening => some .beginBufferRead
  | .absorbing _ => some .absorb
  | .committing => some .commit
  | _ => none

end Worker

/-- The report that is made in the next step. -/
def WorkerPhase.reports : WorkerPhase → List Report
  | reporting report => [report]
  | _ => []

namespace Worker

variable {core : Core} {worker : Worker} {choice : Choice} {advance : Advance Worker}

/-! ## Exchanges -/

/-- Inside an exchange a worker takes a step of the exchange and goes on where it ends. -/
private theorem asking_flow {stage : PollStage} {exchange : Exchange} {inner : Advance Exchange}
    (hphase : worker.phase = .asking stage exchange)
    (h : exchange.step (stage.question core.config) (stage.prepare ·) core choice = some inner) :
    Flow core worker choice (framesOf (afterExchange stage worker inner).events)
      (afterExchange stage worker inner).next := by
  have hissued : (stage.prepare core).waits.issued = core.waits.issued := by
    cases stage <;> rfl
  cases Exchange.step_case h with
  | opened =>
      -- the ticket of the new wait is read off the state before the count was reset
      rw [hissued]
      cases stage <;> exact .registered hphase
  | checked => cases stage <;> exact .checked hphase
  | wrote ticket => cases stage <;> exact .wrote hphase
  -- three ways for a request not to be sent, and one way on
  | withheld | broke | unlinked => cases stage <;> exact .failed hphase (by simp)
  | answered ticket outcome houtcome =>
      cases stage with
      | inventory => cases outcome <;> exact .inventoried hphase
      | buffer announced => cases outcome <;> exact .read hphase
      -- only the count is read off the answer, so that it matters how its wait ended
      | count =>
          cases outcome with
          | completed => exact .counted hphase houtcome
          | rejected | timedOut | superseded => exact .uncounted hphase (by simp [houtcome])
  | expired ticket =>
      cases stage with
      | inventory => exact .inventoried hphase
      | buffer announced => exact .read hphase
      | count => exact .uncounted hphase (by simp)

/-! ## Steps -/

private theorem framesOf_of_not_asking
    (hphase : ∀ stage exchange, worker.phase ≠ .asking stage exchange)
    (h : worker.step core choice = some advance) : framesOf advance.events = [] := by
  cases hwhere : worker.phase with
  | asking stage exchange => exact absurd hwhere (hphase stage exchange)
  | leaving failure =>
      unfold step at h
      cases choice <;> simp only [hwhere, reduceCtorEq] at h
      cases h
      -- a worker that was stopped leaves without a word, and one that failed says why
      cases failure <;> rfl
  | _ =>
      unfold step at h
      cases choice <;>
        simp only [hwhere, move, pause, commitCycle, Core.tagOperation, reduceCtorEq] at h <;>
        (repeat' split at h) <;> cases h <;> simp

/-- Outside its exchanges a worker goes where its phase and its plan say. -/
private theorem flow_of_not_asking
    (hphase : ∀ stage exchange, worker.phase ≠ .asking stage exchange)
    (h : worker.step core choice = some advance) : Flow core worker choice [] advance.next := by
  cases hwhere : worker.phase with
  | asking stage exchange => exact absurd hwhere (hphase stage exchange)
  | starting =>
      unfold step at h
      cases choice <;> simp only [hwhere, reduceCtorEq] at h
      cases hplan : worker.plan <;> simp only [hplan, move] at h <;> cases h
      · exact .begun hwhere (by simp [hplan])
      · exact .begun hwhere (by simp [hplan])
      · exact .rested (.inl hwhere) hplan
  | choosing =>
      unfold step at h
      cases choice <;> simp only [hwhere, reduceCtorEq] at h
      -- a bounded run counts its cycles, a continuous one goes on until it is stopped
      cases hplan : worker.plan <;> simp only [hplan, move] at h
      · split at h <;> rename_i hmore <;> cases h
        · exact .scheduled hwhere hplan hmore
        · exact .finished hwhere hplan hmore
      · split at h <;> rename_i hstop <;> cases h
        · exact .ceased hwhere hplan hstop
        · exact .continued hwhere hplan (by simpa using hstop)
      · cases h
        exact .rested (.inr hwhere) hplan
  | idling | settling | pausing =>
      unfold step at h
      cases choice <;> simp only [hwhere, move, pause, reduceCtorEq] at h <;>
        split at h <;> rename_i hstop <;> cases h
      -- a stop ends the pause, or its timer does
      · first
          | exact .hurried hwhere hstop
          | exact .stopped (by simp [hwhere]) hstop
      · first
          | exact .woke hwhere (by simpa using hstop)
          | exact .settled hwhere (by simpa using hstop)
          | exact .resumed hwhere (by simpa using hstop)
  | tuning =>
      unfold step at h
      cases choice <;> simp only [hwhere, move, reduceCtorEq] at h
      cases h
      exact .tuned hwhere
  | waking =>
      unfold step at h
      cases choice <;> simp only [hwhere, Core.tagOperation, reduceCtorEq] at h
      cases h
      exact .roused hwhere
  | openingCycle =>
      unfold step at h
      cases choice <;> simp only [hwhere, Core.tagOperation, reduceCtorEq] at h
      cases h
      exact .opened hwhere
  | absorbing announced =>
      unfold step at h
      cases choice <;> simp only [hwhere, Core.tagOperation, reduceCtorEq] at h
      cases h
      exact .absorbed hwhere
  | counting =>
      unfold step at h
      cases choice <;> simp only [hwhere, move, reduceCtorEq] at h
      split at h <;> rename_i hcount <;> cases h
      · exact .empty hwhere hcount
      · exact .found hwhere hcount
  | checkingStop =>
      unfold step at h
      cases choice <;> simp only [hwhere, move, reduceCtorEq] at h
      split at h <;> rename_i hstop
      · cases h
        exact .stopped (by simp [hwhere]) hstop
      · split at h <;> rename_i hmore <;> cases h
        · exact .again hwhere (by simpa using hstop) hmore
        · exact .polled hwhere (by simpa using hstop) hmore
  | committing =>
      unfold step at h
      cases choice <;> simp only [hwhere, reduceCtorEq] at h
      cases h
      exact .committed hwhere
  | spacing =>
      unfold step at h
      cases choice <;> simp only [hwhere, reduceCtorEq] at h
      cases hplan : worker.plan <;> simp only [hplan, move] at h
      · split at h <;> rename_i hmore <;> cases h
        · -- only between the cycles of a bounded run a pause is due
          rw [← hplan]
          exact .spaced hwhere hplan hmore
        · rw [← hplan]
          refine .unspaced hwhere ?_
          intro cycles diagnostic hbounded
          rw [hplan] at hbounded
          cases hbounded
          exact hmore
      · cases h
        rw [← hplan]
        exact .unspaced hwhere (by simp [hplan])
      · cases h
        rw [← hplan]
        exact .unspaced hwhere (by simp [hplan])
  | collecting =>
      unfold step at h
      cases choice <;> simp only [hwhere, move, reduceCtorEq] at h
      cases h
      exact .collected hwhere
  | reporting report =>
      unfold step at h
      cases choice <;> simp only [hwhere, reduceCtorEq] at h
      cases h
      exact .reported hwhere
  | leaving failure =>
      unfold step at h
      cases choice <;> simp only [hwhere, reduceCtorEq] at h
      cases h
      exact .left hwhere
  | exited =>
      unfold step at h
      cases choice <;> simp only [hwhere, reduceCtorEq] at h

theorem step_flow (h : worker.step core choice = some advance) :
    Flow core worker choice (framesOf advance.events) advance.next := by
  by_cases hasking : ∃ stage exchange, worker.phase = .asking stage exchange
  · obtain ⟨stage, exchange, hphase⟩ := hasking
    obtain ⟨inner, hinner, rfl⟩ := step_of_asking hphase h
    exact asking_flow hphase hinner
  · have hphase : ∀ stage exchange, worker.phase ≠ .asking stage exchange :=
      fun stage exchange heq => hasking ⟨stage, exchange, heq⟩
    rw [framesOf_of_not_asking hphase h]
    exact flow_of_not_asking hphase h

theorem Flow.keeps {frames : List Frame} {next : Worker}
    (h : Flow core worker choice frames next) :
    next.plan = worker.plan ∧ next.stopRequested = worker.stopRequested := by
  cases h <;> exact ⟨rfl, rfl⟩

theorem step_tags (h : worker.step core choice = some advance) :
    advance.core.tags = core.tags.afterAll worker.operation?.toList := by
  cases hwhere : worker.phase with
  | asking stage exchange =>
      obtain ⟨inner, hinner, rfl⟩ := step_of_asking hwhere h
      rw [core_afterExchange, operation?, hwhere]
      -- an exchange operates on no view; opening one may set the count of the session
      cases Exchange.step_case hinner with
      | opened => cases stage <;> rfl
      | _ => cases stage <;> rfl
  | starting =>
      unfold step at h
      cases choice <;> simp only [hwhere, reduceCtorEq] at h
      cases hplan : worker.plan <;> simp only [hplan, move, Core.tagOperation] at h <;> cases h <;>
        simp [operation?, hwhere, hplan]
  | _ =>
      unfold step at h
      rw [operation?, hwhere]
      cases choice <;>
        simp only [hwhere, move, pause, commitCycle, Core.tagOperation, reduceCtorEq] at h <;>
        (repeat' split at h) <;> cases h <;> rfl

/-- A poll resets the count together with opening the wait for it; no other step changes the
receiver. -/
theorem step_receiver_eq (h : worker.step core choice = some advance) :
    advance.core.receiver =
      if worker.phase = .asking .count .opening then
        { core.receiver with session := core.receiver.session.setTagCount 0 }
      else core.receiver := by
  by_cases hasking : ∃ stage exchange, worker.phase = .asking stage exchange
  · obtain ⟨stage, exchange, hphase⟩ := hasking
    obtain ⟨inner, hinner, rfl⟩ := step_of_asking hphase h
    rw [core_afterExchange, Exchange.step_receiver hinner, hphase]
    -- of all places inside a poll, one resets the count
    cases stage <;> cases exchange <;> simp [PollStage.prepare, Core.setSession, Core.session]
  · have hphase : ∀ stage exchange, worker.phase ≠ .asking stage exchange :=
      fun stage exchange heq => hasking ⟨stage, exchange, heq⟩
    rw [if_neg (hphase _ _)]
    exact (step_of_not_asking hphase h).2.1

theorem step_config (h : worker.step core choice = some advance) :
    advance.core.config = core.config := by
  cases hwhere : worker.phase with
  | asking stage exchange =>
      obtain ⟨inner, hinner, rfl⟩ := step_of_asking hwhere h
      rw [core_afterExchange]
      cases Exchange.step_case hinner with
      | opened => cases stage <;> rfl
      | _ => rfl
  | _ =>
      unfold step at h
      cases choice <;>
        simp only [hwhere, move, pause, commitCycle, Core.tagOperation, reduceCtorEq] at h <;>
        (repeat' split at h) <;> cases h <;> rfl

/-- A report is made in the place for it, and nowhere else. -/
theorem step_reports (h : worker.step core choice = some advance) :
    reportsOf advance.events = worker.phase.reports := by
  cases hwhere : worker.phase with
  | asking stage exchange =>
      obtain ⟨inner, hinner, rfl⟩ := step_of_asking hwhere h
      -- how the wait ends decides where the worker goes, and nothing is reported on the way
      cases Exchange.step_case hinner with
      | answered ticket outcome => cases stage <;> cases outcome <;> rfl
      | _ => cases stage <;> rfl
  | leaving failure =>
      unfold step at h
      cases choice <;> simp only [hwhere, reduceCtorEq] at h
      cases h
      cases failure <;> rfl
  | _ =>
      unfold step at h
      cases choice <;>
        simp only [hwhere, move, pause, commitCycle, Core.tagOperation, reduceCtorEq] at h <;>
        (repeat' split at h) <;> cases h <;> simp [WorkerPhase.reports]

end Worker

end TagInventory
