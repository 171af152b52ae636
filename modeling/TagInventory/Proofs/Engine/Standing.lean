import TagInventory.Proofs.Engine.Course

/-!
# Bounded runs

A bounded run writes the frames of one poll for each cycle, commits the cycles, and makes one
report at the end.

## Strategy

`Standing` says how far such a run has come, from its place alone.  Four numbers and lists
depend on the place:

```text
place                            frames of the poll     of the block    counts     cycles
                                 that is not counted    still to come   beyond     beyond
                                 yet                                    completed  completed
between cycles, settling         none                   none            0          0
inventory written                inventory              none            0          0
count written, counting          inventory, count       none            0          0
buffer not yet written           none                   buffer          1          0
buffer written .. committing     none                   none            1          0
spacing                          none                   none            1          1
```

`Standing.step` follows a worker along `Worker.Flow`, one case for each way, and
`Course.standing` is the induction over a run.
-/

namespace TagInventory

/-! ## Polls -/

/-- What a poll asks for, from the count that it acts on. -/
def pollRequests (config : EngineConfig) (count : UInt16) : List Request :=
  .inventory config.inventoryRounds :: .getInventoryBufferTagCount ::
    if count = 0 then [] else [.getAndResetInventoryBuffer]

/-- The frames of a poll. -/
def pollBlock (config : EngineConfig) (count : UInt16) : List Frame :=
  (pollRequests config count).map (Request.frame config.readerAddress)

theorem pollBlock_zero (config : EngineConfig) :
    pollBlock config 0 = [PollStage.inventory.frame config, PollStage.count.frame config] := rfl

theorem pollBlock_of_ne (config : EngineConfig) {count : UInt16} (h : count ≠ 0) :
    pollBlock config count = [PollStage.inventory.frame config, PollStage.count.frame config,
      (PollStage.buffer count).frame config] := by
  rw [pollBlock, pollRequests, if_neg h]
  rfl

/-- The count that a poll acts on, in the turn in which it is known.  The wait for it may have
been completed, and then it is read; in every other case it is zero. -/
def Turn.count? (turn : Turn) : Option UInt16 :=
  match turn.worker.phase, turn.choice with
  | .counting, _ => some turn.core.session.tagCount
  | .asking .count (.awaiting ticket), .proceed =>
    if turn.core.waits.outcome? ticket = some .completed then none else some 0
  | .asking .count (.awaiting _), _ => some 0
  | _, _ => none

/-- The counts that polls acted on, in order. -/
def countsOf (moments : List Moment) : List UInt16 :=
  (turnsOf moments).filterMap Turn.count?

/-- No pause between two cycles was ended by a stop. -/
def Uninterrupted (moments : List Moment) : Prop :=
  ∀ turn ∈ turnsOf moments, turn.worker.phase = .pausing → turn.worker.stopRequested = false

/-! ## Places -/

/-- What the place of a worker adds to the polls that are counted and to the cycles that are
over. -/
structure Part where
  /-- The frames of the poll whose count is not known yet. -/
  asked : List Frame
  /-- What is missing of the block of a poll whose count is known. -/
  owed : List Frame
  /-- The polls that are counted, beyond the cycles that are over. -/
  counted : Nat
  /-- The cycles that are committed, beyond those that are over. -/
  committed : Nat

namespace WorkerPhase

/-- The part of a cycle that is done at a place. -/
def part (config : EngineConfig) : WorkerPhase → Part
  | asking .inventory exchange =>
    ⟨if exchange.isWritten then [PollStage.inventory.frame config] else [], [], 0, 0⟩
  | asking .count exchange =>
    ⟨PollStage.inventory.frame config ::
      if exchange.isWritten then [PollStage.count.frame config] else [], [], 0, 0⟩
  | counting => ⟨[PollStage.inventory.frame config, PollStage.count.frame config], [], 0, 0⟩
  | asking (.buffer announced) exchange =>
    ⟨[], if exchange.isWritten then [] else [(PollStage.buffer announced).frame config], 1, 0⟩
  | absorbing _ | checkingStop | committing => ⟨[], [], 1, 0⟩
  | spacing => ⟨[], [], 1, 1⟩
  | _ => ⟨[], [], 0, 0⟩

section

variable (config : EngineConfig) (announced : UInt16) (exchange : Exchange)

@[simp] theorem part_asking_inventory : (asking .inventory exchange).part config =
    ⟨if exchange.isWritten then [PollStage.inventory.frame config] else [], [], 0, 0⟩ := rfl

@[simp] theorem part_asking_count : (asking .count exchange).part config =
    ⟨PollStage.inventory.frame config ::
      if exchange.isWritten then [PollStage.count.frame config] else [], [], 0, 0⟩ := rfl

@[simp] theorem part_asking_buffer : (asking (.buffer announced) exchange).part config =
    ⟨[], if exchange.isWritten then [] else [(PollStage.buffer announced).frame config], 1, 0⟩ :=
  rfl

@[simp] theorem part_counting : counting.part config =
    ⟨[PollStage.inventory.frame config, PollStage.count.frame config], [], 0, 0⟩ := rfl

@[simp] theorem part_checkingStop : checkingStop.part config = ⟨[], [], 1, 0⟩ := rfl

@[simp] theorem part_committing : committing.part config = ⟨[], [], 1, 0⟩ := rfl

@[simp] theorem part_spacing : spacing.part config = ⟨[], [], 1, 1⟩ := rfl

end

/-- The number of cycles that are over, at a place of a bounded run. -/
def Allows (completed cycles : Nat) : WorkerPhase → Prop
  | starting => completed = 0
  | choosing => completed ≤ cycles
  | collecting | reporting _ => completed = cycles
  | tuning | idling | waking | leaving _ | exited => False
  | _ => completed < cycles

/-- What is asked of a poll that is not counted yet begins its block, and there is a cycle left
for it. -/
theorem asked_case (phase : WorkerPhase) (config : EngineConfig) :
    (phase.part config).asked = [] ∨
      (phase.part config).counted = 0 ∧
        (∀ completed cycles, phase.Allows completed cycles → completed < cycles) ∧
        ∀ count, (phase.part config).asked <+: pollBlock config count := by
  cases phase with
  | asking stage exchange =>
      cases stage with
      | inventory =>
          cases exchange with
          | awaiting ticket => exact .inr ⟨rfl, fun _ _ => id, fun _ => List.prefix_append [_] _⟩
          | _ => exact .inl rfl
      | count =>
          cases exchange with
          | awaiting ticket => exact .inr ⟨rfl, fun _ _ => id, fun _ => List.prefix_append [_, _] _⟩
          | _ => exact .inr ⟨rfl, fun _ _ => id, fun _ => List.prefix_append [_] _⟩
      | buffer announced => exact .inl rfl
  | counting => exact .inr ⟨rfl, fun _ _ => id, fun _ => List.prefix_append [_, _] _⟩
  | _ => exact .inl rfl

/-- No more polls are counted than there are cycles. -/
theorem counted_le {phase : WorkerPhase} (config : EngineConfig) {completed cycles : Nat}
    (h : phase.Allows completed cycles) :
    completed + (phase.part config).counted ≤ cycles := by
  cases phase with
  | starting => exact (Nat.le_of_eq h).trans (Nat.zero_le _)
  | choosing => exact h
  | collecting | reporting report => exact Nat.le_of_eq h
  | tuning | idling | waking | leaving failure | exited => exact False.elim h
  | absorbing announced | checkingStop | committing | spacing => exact h
  | asking stage exchange =>
      cases stage with
      | buffer announced => exact h
      | _ => exact Nat.le_of_lt h
  | _ => exact Nat.le_of_lt h

theorem committed_le {phase : WorkerPhase} (config : EngineConfig) {completed cycles : Nat}
    (h : phase.Allows completed cycles) :
    completed + (phase.part config).committed ≤ cycles := by
  cases phase with
  | starting => exact (Nat.le_of_eq h).trans (Nat.zero_le _)
  | choosing | spacing => exact h
  | collecting | reporting report => exact Nat.le_of_eq h
  | tuning | idling | waking | leaving failure | exited => exact False.elim h
  | asking stage exchange => cases stage <;> exact Nat.le_of_lt h
  | _ => exact Nat.le_of_lt h

end WorkerPhase

section

variable (moments : List Moment) (taken : Turn) (core : Core) (byte : UInt8)

@[simp] theorem countsOf_concat_turn :
    countsOf (moments ++ [.turn taken]) = countsOf moments ++ taken.count?.toList := by
  rw [countsOf, turnsOf_concat_turn, List.filterMap_append, ← countsOf,
    List.filterMap_eq_flatMap_toList _ [taken], List.flatMap_singleton]

@[simp] theorem countsOf_concat_byte :
    countsOf (moments ++ [.byte core byte]) = countsOf moments := by
  rw [countsOf, turnsOf_concat_byte, ← countsOf]

@[simp] theorem uninterrupted_concat_turn :
    Uninterrupted (moments ++ [.turn taken]) ↔
      Uninterrupted moments ∧
        (taken.worker.phase = .pausing → taken.worker.stopRequested = false) :=
  forall_turnsOf_concat_turn moments taken

@[simp] theorem uninterrupted_concat_byte :
    Uninterrupted (moments ++ [.byte core byte]) ↔ Uninterrupted moments := by
  rw [Uninterrupted, turnsOf_concat_byte, ← Uninterrupted]

end

/-! ## How far a run has come -/

/-- A bounded run on its way. -/
structure Underway (config : EngineConfig) (cycles : Nat) (moments : List Moment)
    (worker : Worker) : Prop where
  written_eq : writtenIn moments ++ (worker.phase.part config).owed =
    (countsOf moments).flatMap (pollBlock config) ++ (worker.phase.part config).asked
  length_counts : (countsOf moments).length =
    worker.completed + (worker.phase.part config).counted
  length_commits : (commitsOf moments).length =
    worker.completed + (worker.phase.part config).committed
  allows : worker.phase.Allows worker.completed cycles
  single : worker.attempts = 1
  reported_eq : reportedIn moments = []
  uninterrupted : Uninterrupted moments

/-- The frames of a run are the first ones of its blocks, whatever the counts of the polls
that are still to come. -/
def Prefixed (config : EngineConfig) (cycles : Nat) (moments : List Moment) : Prop :=
  (countsOf moments).length ≤ cycles ∧
    ∀ later, (countsOf moments).length + later.length = cycles →
      writtenIn moments <+: (countsOf moments ++ later).flatMap (pollBlock config)

/-- The way out of a run. -/
def WorkerPhase.IsOver (phase : WorkerPhase) : Prop :=
  phase = .exited ∨ ∃ failure, phase = .leaving failure

/-- How far a bounded run has come. -/
inductive Standing (config : EngineConfig) (cycles : Nat) (moments : List Moment)
    (worker : Worker) : Prop
  | underway (h : Underway config cycles moments worker)
  /-- A stop ended the pause before a poll. -/
  | hurried (hphase : worker.phase = .checkingStop) (hstop : worker.stopRequested = true)
      (h : Underway config cycles moments (worker.goto .settling))
  | abandoned (hover : worker.phase.IsOver) (hframes : Prefixed config cycles moments)
      (hcommits : (commitsOf moments).length < cycles) (hreported : reportedIn moments = [])
  | done (hover : worker.phase.IsOver) (hframes : Prefixed config cycles moments)
      (hcommits : (commitsOf moments).length = cycles)
      (hreported : (reportedIn moments).length = 1) (huninterrupted : Uninterrupted moments)

/-- The places at which nothing is counted, committed or reported. -/
def WorkerPhase.isSilent : WorkerPhase → Bool
  | asking .count (.awaiting _) | counting | committing | reporting _ => false
  | _ => true

/-- A turn on which nothing is written, counted, committed or reported. -/
structure Turn.Silent (taken : Turn) : Prop where
  frames_eq : taken.frames = []
  count?_eq : taken.count? = none
  commits_eq : taken.commits = false
  reports_eq : taken.reports = []

section

variable {config : EngineConfig} {cycles : Nat} {moments : List Moment} {worker next : Worker}
  {taken : Turn} {frames : List Frame}

theorem Turn.silent_of_phase (hframes : taken.frames = [])
    (hreports : taken.reports = taken.worker.phase.reports)
    (hphase : taken.worker.phase.isSilent = true) : taken.Silent where
  frames_eq := hframes
  count?_eq := by
    unfold Turn.count?
    split
    · rename_i heq
      rw [heq] at hphase
      cases hphase
    · rename_i heq hchoice
      rw [heq] at hphase
      cases hphase
    · rename_i heq hchoice
      rw [heq] at hphase
      cases hphase
    · rfl
  commits_eq := by
    rw [Turn.commits, decide_eq_false_iff_not]
    intro heq
    rw [heq] at hphase
    cases hphase
  reports_eq := by
    rw [hreports]
    cases heq : taken.worker.phase with
    | reporting report =>
        rw [heq] at hphase
        cases hphase
    | _ => rfl

theorem Prefixed.silent (h : Prefixed config cycles moments) (hsilent : taken.Silent) :
    Prefixed config cycles (moments ++ [.turn taken]) := by
  unfold Prefixed
  rw [writtenIn_concat_turn, countsOf_concat_turn, hsilent.frames_eq, hsilent.count?_eq,
    Option.toList_none, List.append_nil, List.append_nil]
  exact h

theorem Prefixed.byte (h : Prefixed config cycles moments) (core : Core) (byte : UInt8) :
    Prefixed config cycles (moments ++ [.byte core byte]) := by
  unfold Prefixed
  rw [writtenIn_concat_byte, countsOf_concat_byte]
  exact h

namespace Underway

/-- The frames of a run on its way are the first ones of its blocks. -/
theorem prefixed (h : Underway config cycles moments worker) :
    Prefixed config cycles moments := by
  refine ⟨?_, ?_⟩
  · rw [h.length_counts]
    exact WorkerPhase.counted_le config h.allows
  · intro later hlater
    have hall : writtenIn moments <+:
        (countsOf moments).flatMap (pollBlock config) ++ (worker.phase.part config).asked := by
      rw [← h.written_eq]
      exact List.prefix_append _ _
    have hrest : (worker.phase.part config).asked <+: later.flatMap (pollBlock config) := by
      rcases worker.phase.asked_case config with hnone | ⟨hcounted, hless, hblock⟩
      · rw [hnone]
        exact List.nil_prefix
      · -- there is a poll to come, and it begins like this
        have hcompleted := hless _ _ h.allows
        have hcounts := h.length_counts
        rw [hcounted] at hcounts
        cases later with
        | nil =>
            rw [List.length_nil] at hlater
            omega
        | cons count later =>
            rw [List.flatMap_cons]
            exact (hblock count).trans (List.prefix_append _ _)
    rw [List.flatMap_append]
    exact hall.trans ((List.prefix_append_right_inj _).mpr hrest)

theorem commits_le (h : Underway config cycles moments worker) :
    (commitsOf moments).length ≤ cycles := by
  rw [h.length_commits]
  exact WorkerPhase.committed_le config h.allows

/-- The books after a turn: what the place adds changes by what is done in the turn. -/
theorem book (h : Underway config cycles moments taken.worker) (hreports : taken.reports = [])
    (hpause : taken.worker.phase = .pausing → taken.worker.stopRequested = false)
    (hwritten : writtenIn moments ++ taken.frames ++ (next.phase.part config).owed =
      (countsOf moments).flatMap (pollBlock config) ++
        taken.count?.toList.flatMap (pollBlock config) ++ (next.phase.part config).asked)
    (hcounts : next.completed + (next.phase.part config).counted =
      taken.worker.completed + (taken.worker.phase.part config).counted +
        taken.count?.toList.length)
    (hcommits : next.completed + (next.phase.part config).committed =
      taken.worker.completed + (taken.worker.phase.part config).committed +
        if taken.commits then 1 else 0)
    (hattempts : next.attempts = taken.worker.attempts)
    (hallows : next.phase.Allows next.completed cycles) :
    Underway config cycles (moments ++ [.turn taken]) next where
  written_eq := by
    rw [writtenIn_concat_turn, countsOf_concat_turn, List.flatMap_append]
    exact hwritten
  length_counts := by
    rw [countsOf_concat_turn, List.length_append, h.length_counts]
    exact hcounts.symm
  length_commits := by
    rw [commitsOf_concat_turn, List.length_append, h.length_commits, hcommits]
    cases taken.commits <;> rfl
  allows := hallows
  single := hattempts.trans h.single
  reported_eq := by
    rw [reportedIn_concat_turn, hreports, h.reported_eq, List.append_nil]
  uninterrupted := (uninterrupted_concat_turn _ _).mpr ⟨h.uninterrupted, hpause⟩

theorem silent (h : Underway config cycles moments taken.worker) (hsilent : taken.Silent)
    (hpause : taken.worker.phase = .pausing → taken.worker.stopRequested = false)
    (hpart : next.phase.part config = taken.worker.phase.part config)
    (hcompleted : next.completed = taken.worker.completed)
    (hattempts : next.attempts = taken.worker.attempts)
    (hallows : next.phase.Allows taken.worker.completed cycles) :
    Underway config cycles (moments ++ [.turn taken]) next := by
  rw [← hcompleted] at hallows
  refine h.book hsilent.reports_eq hpause ?_ ?_ ?_ hattempts hallows
  · rw [hsilent.frames_eq, hsilent.count?_eq, hpart]
    simpa using h.written_eq
  · rw [hsilent.count?_eq, hpart, hcompleted]
    rfl
  · rw [hsilent.commits_eq, hpart, hcompleted]
    rfl

theorem write {stage : PollStage} {ticket : Ticket}
    (h : Underway config cycles moments taken.worker)
    (hphase : taken.worker.phase = .asking stage (.writing ticket))
    (hframes : taken.frames = [stage.frame config])
    (hreports : taken.reports = taken.worker.phase.reports) :
    Underway config cycles (moments ++ [.turn taken])
      (taken.worker.goto (.asking stage (.awaiting ticket))) := by
  have hallows := h.allows
  have hwritten := h.written_eq
  have hcount : taken.count? = none := by
    cases stage <;> simp [Turn.count?, hphase]
  rw [hphase] at hallows hwritten hreports
  refine h.book hreports (by simp [hphase]) ?_ ?_ ?_ rfl hallows
  · rw [hframes, hcount]
    cases stage with
    | inventory | buffer =>
        simpa [Exchange.isWritten, Worker.goto] using hwritten
    | count =>
        have hasked : writtenIn moments = (countsOf moments).flatMap (pollBlock config) ++
            [PollStage.inventory.frame config] := by
          simpa [Exchange.isWritten] using hwritten
        simp [Exchange.isWritten, Worker.goto, hasked]
  · rw [hcount, hphase]
    cases stage <;> rfl
  · cases stage <;> simp [Turn.commits, hphase, Worker.goto]

theorem count_zero (h : Underway config cycles moments taken.worker)
    (hasked : taken.worker.phase.part config =
      ⟨[PollStage.inventory.frame config, PollStage.count.frame config], [], 0, 0⟩)
    (hcount : taken.count? = some 0) (hframes : taken.frames = [])
    (hcommits : taken.commits = false) (hreports : taken.reports = [])
    (hpause : taken.worker.phase ≠ .pausing) (hless : taken.worker.completed < cycles) :
    Underway config cycles (moments ++ [.turn taken]) (taken.worker.goto .checkingStop) := by
  have hwritten := h.written_eq
  refine h.book hreports (fun heq => absurd heq hpause) ?_ ?_ ?_ rfl hless
  · rw [hasked] at hwritten
    rw [hframes, hcount]
    simpa [Worker.goto, pollBlock_zero] using hwritten
  · rw [hcount, hasked]
    rfl
  · rw [hcommits, hasked]
    rfl

theorem count_some (h : Underway config cycles moments taken.worker)
    (hphase : taken.worker.phase = .counting) (hsome : taken.core.session.tagCount ≠ 0)
    (hframes : taken.frames = []) (hreports : taken.reports = taken.worker.phase.reports) :
    Underway config cycles (moments ++ [.turn taken])
      (taken.worker.goto (.asking (.buffer taken.core.session.tagCount) .opening)) := by
  have hallows := h.allows
  have hwritten := h.written_eq
  have hcount : taken.count? = some taken.core.session.tagCount := by
    simp [Turn.count?, hphase]
  rw [hphase] at hallows hwritten hreports
  have hasked : writtenIn moments = (countsOf moments).flatMap (pollBlock config) ++
      [PollStage.inventory.frame config, PollStage.count.frame config] := by
    simpa using hwritten
  refine h.book hreports (by simp [hphase]) ?_ ?_ ?_ rfl hallows
  · rw [hframes, hcount, hasked]
    simp [Exchange.isWritten, Worker.goto, pollBlock_of_ne config hsome]
  · rw [hcount, hphase]
    rfl
  · simp [Turn.commits, hphase, Worker.goto]

theorem commit (h : Underway config cycles moments taken.worker)
    (hphase : taken.worker.phase = .committing) (hframes : taken.frames = [])
    (hreports : taken.reports = taken.worker.phase.reports) :
    Underway config cycles (moments ++ [.turn taken]) (taken.worker.goto .spacing) := by
  have hallows := h.allows
  have hwritten := h.written_eq
  have hcount : taken.count? = none := by
    simp [Turn.count?, hphase]
  rw [hphase] at hallows hwritten hreports
  refine h.book hreports (by simp [hphase]) ?_ ?_ ?_ rfl hallows
  · rw [hframes, hcount]
    simpa [Worker.goto] using hwritten
  · rw [hcount, hphase]
    rfl
  · simp [Turn.commits, hphase, Worker.goto]

theorem space (h : Underway config cycles moments taken.worker)
    (hphase : taken.worker.phase = .spacing) (hframes : taken.frames = [])
    (hreports : taken.reports = taken.worker.phase.reports)
    (hpart : next.phase.part config = ⟨[], [], 0, 0⟩)
    (hcompleted : next.completed = taken.worker.completed + 1)
    (hattempts : next.attempts = taken.worker.attempts)
    (hallows : next.phase.Allows next.completed cycles) :
    Underway config cycles (moments ++ [.turn taken]) next := by
  have hwritten := h.written_eq
  have hcount : taken.count? = none := by
    simp [Turn.count?, hphase]
  rw [hphase] at hwritten hreports
  refine h.book hreports (by simp [hphase]) ?_ ?_ ?_ hattempts hallows
  · rw [hframes, hcount, hpart]
    simpa using hwritten
  · rw [hcount, hphase, hpart, hcompleted]
    rfl
  · have hnone : taken.commits = false := by
      simp [Turn.commits, hphase]
    rw [hpart, hphase, hcompleted, hnone]
    rfl

theorem abandon (h : Underway config cycles moments worker) (hsilent : taken.Silent)
    (hless : worker.completed + (worker.phase.part config).committed < cycles)
    (hover : next.phase.IsOver) : Standing config cycles (moments ++ [.turn taken]) next := by
  refine .abandoned hover (h.prefixed.silent hsilent) ?_ ?_
  · rw [commitsOf_concat_turn, hsilent.commits_eq]
    simpa [h.length_commits] using hless
  · rw [reportedIn_concat_turn, hsilent.reports_eq, h.reported_eq, List.append_nil]

theorem finish {report : Report} (h : Underway config cycles moments taken.worker)
    (hphase : taken.worker.phase = .reporting report) (hframes : taken.frames = [])
    (hreports : taken.reports = taken.worker.phase.reports) (hover : next.phase.IsOver) :
    Standing config cycles (moments ++ [.turn taken]) next := by
  have hallows := h.allows
  have hcommits := h.length_commits
  have hcount : taken.count? = none := by
    simp [Turn.count?, hphase]
  rw [hphase] at hallows hcommits hreports
  refine .done hover ?_ ?_ ?_ ?_
  · rw [Prefixed, writtenIn_concat_turn, countsOf_concat_turn, hframes, hcount,
      Option.toList_none, List.append_nil, List.append_nil]
    exact h.prefixed
  · have hnone : taken.commits = false := by
      simp [Turn.commits, hphase]
    rw [commitsOf_concat_turn, hnone, List.length_append, hcommits]
    exact hallows
  · rw [reportedIn_concat_turn, h.reported_eq, hreports]
    rfl
  · exact (uninterrupted_concat_turn _ _).mpr ⟨h.uninterrupted, by simp [hphase]⟩

theorem step (h : Underway config cycles moments taken.worker) {diagnostic : Bool}
    {planned : UInt64} (hplan : taken.worker.plan = .bounded planned diagnostic)
    (hcycles : planned.toNat = cycles) (hconfig : taken.core.config = config)
    (hflow : Worker.Flow taken.core taken.worker taken.choice frames next)
    (hframes : taken.frames = frames) (hreports : taken.reports = taken.worker.phase.reports) :
    Standing config cycles (moments ++ [.turn taken]) next := by
  obtain ⟨core, worker, choice, advance⟩ := taken
  have hallows := h.allows
  have hsingle := h.single
  dsimp only at hplan hconfig hflow hreports hallows hsingle
  cases hflow with
  -- ways on which nothing is written, counted or committed
  | begun hphase | settled hphase | inventoried hphase | read hphase | absorbed hphase
  | polled hphase | resumed hphase | collected hphase | opened hphase =>
      rw [hphase] at hallows
      have hsilent := Turn.silent_of_phase hframes hreports (by rw [hphase]; rfl)
      refine .underway (h.silent hsilent ?_ ?_ rfl rfl ?_)
      · simp [*]
      · rw [hphase]
        rfl
      · simp only [WorkerPhase.Allows, Worker.goto] at hallows ⊢
        omega
  | @registered stage hphase | @checked stage ticket hphase =>
      rw [hphase] at hallows
      have hsilent := Turn.silent_of_phase hframes hreports (by rw [hphase]; cases stage <;> rfl)
      refine .underway (h.silent hsilent (by simp [hphase]) ?_ rfl rfl hallows)
      rw [hphase]
      cases stage <;> rfl
  | counted hphase houtcome =>
      rw [hphase] at hallows
      have hcount : (⟨core, worker, .proceed, advance⟩ : Turn).count? = none := by
        simp [Turn.count?, hphase, houtcome]
      have hsilent : (⟨core, worker, .proceed, advance⟩ : Turn).Silent :=
        ⟨hframes, hcount, by simp [Turn.commits, hphase], by rw [hreports, hphase]; rfl⟩
      refine .underway (h.silent hsilent (by simp [hphase]) ?_ rfl rfl hallows)
      rw [hphase]
      rfl
  | scheduled hphase hplanned hmore =>
      rw [hplan] at hplanned
      cases hplanned
      have hsilent := Turn.silent_of_phase hframes hreports (by rw [hphase]; rfl)
      refine .underway (h.silent hsilent (by simp [hphase]) ?_ rfl rfl (hcycles ▸ hmore))
      rw [hphase]
      rfl
  | finished hphase hplanned hdone =>
      rw [hplan] at hplanned
      cases hplanned
      rw [hphase] at hallows
      have hsilent := Turn.silent_of_phase hframes hreports (by rw [hphase]; rfl)
      refine .underway (h.silent hsilent (by simp [hphase]) ?_ rfl rfl ?_)
      · rw [hphase]
        rfl
      · simp only [WorkerPhase.Allows, Worker.goto] at hallows ⊢
        omega
  -- the poll
  | wrote hphase => exact .underway (h.write hphase (hconfig ▸ hframes) hreports)
  | uncounted hphase houtcome =>
      rw [hphase] at hallows hreports
      refine .underway (h.count_zero (by rw [hphase]; rfl) ?_ hframes ?_ hreports ?_ hallows)
      · cases choice <;> simp [Turn.count?, hphase, houtcome]
      · simp [Turn.commits, hphase]
      · simp [hphase]
  | empty hphase hzero =>
      rw [hphase] at hallows hreports
      refine .underway (h.count_zero (by rw [hphase]; rfl) ?_ hframes ?_ hreports ?_ hallows)
      · simp [Turn.count?, hphase, hzero]
      · simp [Turn.commits, hphase]
      · simp [hphase]
  | found hphase hsome => exact .underway (h.count_some hphase hsome hframes hreports)
  -- the cycle
  | again hphase hstop hmore =>
      rw [hsingle] at hmore
      omega
  | committed hphase =>
      have hspacing : worker.afterCommit core = .spacing := by
        rw [Worker.afterCommit, hplan]
      rw [hspacing]
      exact .underway (h.commit hphase hframes hreports)
  | spaced hphase hplanned hmore =>
      rw [hplan] at hplanned
      cases hplanned
      exact .underway (h.space hphase hframes hreports rfl rfl rfl (hcycles ▸ hmore))
  | unspaced hphase hlast =>
      rw [hphase] at hallows
      exact .underway (h.space hphase hframes hreports rfl rfl rfl hallows)
  -- the ways out
  | hurried hphase hstop =>
      rw [hphase] at hallows
      have hsilent := Turn.silent_of_phase hframes hreports (by rw [hphase]; rfl)
      refine .hurried rfl hstop (h.silent hsilent (by simp [hphase]) ?_ rfl rfl hallows)
      rw [hphase]
      rfl
  | @failed stage exchange choice failure hphase hexchange =>
      rw [hphase] at hallows
      have hquiet : (WorkerPhase.asking stage exchange).isSilent = true := by
        cases stage with
        | count =>
            cases exchange with
            | awaiting ticket => exact absurd rfl (hexchange ticket)
            | _ => rfl
        | _ => rfl
      have hsilent := Turn.silent_of_phase hframes hreports (by rw [hphase]; exact hquiet)
      refine h.abandon hsilent ?_ (.inr ⟨_, rfl⟩)
      rw [hphase]
      cases stage <;> exact hallows
  | stopped hphase hstop =>
      rcases hphase with hphase | hphase | hphase
      · rw [hphase] at hallows
        exact hallows.elim
      all_goals
        rw [hphase] at hallows
        have hsilent := Turn.silent_of_phase hframes hreports (by rw [hphase]; rfl)
        refine h.abandon hsilent ?_ (.inr ⟨_, rfl⟩)
        rw [hphase]
        exact hallows
  | reported hphase =>
      have hleaving : worker.afterReport = .leaving none := by
        rw [Worker.afterReport, hplan]
      exact h.finish hphase hframes hreports (.inr ⟨none, hleaving⟩)
  -- ways of other runs
  | left hphase | tuned hphase | woke hphase | roused hphase =>
      rw [hphase] at hallows
      exact hallows.elim
  | rested hphase hidle =>
      rw [hplan] at hidle
      cases hidle
  | continued hphase hplanned | ceased hphase hplanned =>
      rw [hplan] at hplanned
      cases hplanned

end Underway

private theorem over_flow (hover : taken.worker.phase.IsOver)
    (hflow : Worker.Flow taken.core taken.worker taken.choice frames next)
    (hframes : taken.frames = frames) (hreports : taken.reports = taken.worker.phase.reports) :
    next.phase.IsOver ∧ taken.Silent ∧
      (taken.worker.phase = .pausing → taken.worker.stopRequested = false) := by
  obtain ⟨core, worker, choice, advance⟩ := taken
  dsimp only at hover hflow hreports
  rcases hover with hover | ⟨failure, hover⟩
  · cases hflow <;> simp_all
  · cases hflow with
    | left hphase =>
        refine ⟨.inl rfl, Turn.silent_of_phase hframes hreports (by rw [hphase]; rfl), ?_⟩
        simp [hphase]
    | _ => simp_all

namespace Standing

theorem step (h : Standing config cycles moments taken.worker) {diagnostic : Bool}
    {planned : UInt64} (hplan : taken.worker.plan = .bounded planned diagnostic)
    (hcycles : planned.toNat = cycles) (hconfig : taken.core.config = config)
    (hflow : Worker.Flow taken.core taken.worker taken.choice frames next)
    (hframes : taken.frames = frames) (hreports : taken.reports = taken.worker.phase.reports) :
    Standing config cycles (moments ++ [.turn taken]) next := by
  cases h with
  | underway h => exact h.step hplan hcycles hconfig hflow hframes hreports
  | hurried hphase hstop h =>
      -- the stop is still there
      have hleaving : next.phase.IsOver ∧ taken.Silent := by
        obtain ⟨core, worker, choice, advance⟩ := taken
        dsimp only at hphase hstop hflow hreports
        cases hflow with
        | stopped =>
            exact ⟨.inr ⟨_, rfl⟩, Turn.silent_of_phase hframes hreports (by rw [hphase]; rfl)⟩
        | _ => simp_all
      exact h.abandon hleaving.2 h.allows hleaving.1
  | abandoned hover hprefixed hcommits hreported =>
      obtain ⟨hnext, hsilent, -⟩ := over_flow hover hflow hframes hreports
      refine .abandoned hnext (hprefixed.silent hsilent) ?_ ?_
      · rw [commitsOf_concat_turn, hsilent.commits_eq]
        simpa using hcommits
      · rw [reportedIn_concat_turn, hsilent.reports_eq, hreported, List.append_nil]
  | done hover hprefixed hcommits hreported huninterrupted =>
      obtain ⟨hnext, hsilent, hpause⟩ := over_flow hover hflow hframes hreports
      refine .done hnext (hprefixed.silent hsilent) ?_ ?_ ?_
      · rw [commitsOf_concat_turn, hsilent.commits_eq]
        simpa using hcommits
      · rw [reportedIn_concat_turn, hsilent.reports_eq, List.append_nil]
        exact hreported
      · exact (uninterrupted_concat_turn _ _).mpr ⟨huninterrupted, hpause⟩

/-- Others may only ask for a stop. -/
theorem spared {same : Worker} (h : Standing config cycles moments worker)
    (hspared : worker.Spared same) : Standing config cycles moments same := by
  rcases hspared with rfl | rfl
  · exact h
  · cases h with
    | underway h => exact .underway ⟨h.1, h.2, h.3, h.4, h.5, h.6, h.7⟩
    | hurried hphase hstop h =>
        exact .hurried hphase rfl ⟨h.1, h.2, h.3, h.4, h.5, h.6, h.7⟩
    | abandoned hover hprefixed hcommits hreported =>
        exact .abandoned hover hprefixed hcommits hreported
    | done hover hprefixed hcommits hreported huninterrupted =>
        exact .done hover hprefixed hcommits hreported huninterrupted

theorem byte (h : Standing config cycles moments worker) (core : Core) (byte : UInt8) :
    Standing config cycles (moments ++ [.byte core byte]) worker := by
  have hunderway {worker : Worker} (h : Underway config cycles moments worker) :
      Underway config cycles (moments ++ [.byte core byte]) worker := by
    obtain ⟨hwritten, hcounts, hcommits, hallows, hsingle, hreported, huninterrupted⟩ := h
    constructor <;> simpa
  cases h with
  | underway h => exact .underway (hunderway h)
  | hurried hphase hstop h => exact .hurried hphase hstop (hunderway h)
  | abandoned hover hprefixed hcommits hreported =>
      refine .abandoned hover (hprefixed.byte core byte) ?_ ?_
      · rw [commitsOf_concat_byte]
        exact hcommits
      · rw [reportedIn_concat_byte]
        exact hreported
  | done hover hprefixed hcommits hreported huninterrupted =>
      refine .done hover (hprefixed.byte core byte) ?_ ?_ ?_
      · rw [commitsOf_concat_byte]
        exact hcommits
      · rw [reportedIn_concat_byte]
        exact hreported
      · rw [uninterrupted_concat_byte]
        exact huninterrupted

theorem spawn (config : EngineConfig) (cycles : UInt64) (diagnostic : Bool) :
    Standing config cycles.toNat [] (.spawn (.bounded cycles diagnostic)) := by
  refine .underway ⟨rfl, rfl, rfl, rfl, rfl, rfl, ?_⟩
  intro taken htaken
  cases htaken

end Standing

end

namespace Course

variable {start core : Core} {spawned worker : Worker} {moments : List Moment}

theorem config_eq (h : Course (fun core after => after.config = core.config) start spawned moments
      core worker) : core.config = start.config := by
  induction h with
  | nil => rfl
  | turn h hstep ih => exact (Worker.step_config hstep).trans ih
  | byte h byte ih => exact (Core.Takes.receive _ byte).config_eq.trans ih
  | aside h hcore hworker ih => exact hcore.trans ih

/-- How far a bounded run has come, at every moment. -/
theorem standing {cycles : UInt64} {diagnostic : Bool}
    (h : Course (fun core after => after.config = core.config) start
      (.spawn (.bounded cycles diagnostic)) moments core worker) :
    Standing start.config cycles.toNat moments worker := by
  induction h with
  | nil => exact .spawn start.config cycles diagnostic
  | turn h hstep ih =>
      exact ih.step h.plan_eq rfl h.config_eq (Worker.step_flow hstep) rfl
        (Worker.step_reports hstep)
  | byte h byte ih => exact ih.byte _ byte
  | aside h hcore hworker ih => exact ih.spared hworker

end Course

end TagInventory
