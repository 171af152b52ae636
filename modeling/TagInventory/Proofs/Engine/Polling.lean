import TagInventory.Proofs.Engine.Course

/-!
# The cycles of a run

Between the turn that begins a cycle and the turn that commits it, a worker only polls.  So a
course whose worker is polling splits at the turn that began the cycle (`Course.cycle`), and
the rest of it is a course of its own, which starts with the first pause.

`Polling` counts in such a course: a poll that has come to its stop check has asked for one
inventory, unless a stop kept it from asking, and as many checks as polls have found no stop.
At the commit there are as many of both as the cycle has polls (`Course.polling`).
-/

namespace TagInventory

/-- The places of a poll. -/
def WorkerPhase.polls : WorkerPhase → Bool
  | settling | asking .. | counting | absorbing _ | checkingStop => true
  | _ => false

/-- The inventory requests that the worker wrote. -/
def inventoriesIn (moments : List Moment) : Nat :=
  (writtenIn moments).countP fun frame => frame.command = Command.inventory.code

/-- The checks after a poll whether a stop was requested. -/
def checksIn (moments : List Moment) : Nat :=
  (turnsOf moments).countP fun turn => turn.worker.phase = .checkingStop

/-- Every turn was taken in a poll. -/
def OnlyPolls (moments : List Moment) : Prop :=
  ∀ turn ∈ turnsOf moments, turn.worker.phase.polls = true

section

variable (moments : List Moment) (taken : Turn) (core : Core) (byte : UInt8)

@[simp] theorem inventoriesIn_concat_turn :
    inventoriesIn (moments ++ [.turn taken]) = inventoriesIn moments +
      taken.frames.countP fun frame => frame.command = Command.inventory.code := by
  rw [inventoriesIn, writtenIn_concat_turn, List.countP_append, ← inventoriesIn]

@[simp] theorem inventoriesIn_concat_byte :
    inventoriesIn (moments ++ [.byte core byte]) = inventoriesIn moments := by
  rw [inventoriesIn, writtenIn_concat_byte, ← inventoriesIn]

@[simp] theorem checksIn_concat_turn :
    checksIn (moments ++ [.turn taken]) =
      checksIn moments + if taken.worker.phase = .checkingStop then 1 else 0 := by
  rw [checksIn, turnsOf_concat_turn, List.countP_append, ← checksIn, List.countP_singleton]
  simp

@[simp] theorem checksIn_concat_byte :
    checksIn (moments ++ [.byte core byte]) = checksIn moments := by
  rw [checksIn, turnsOf_concat_byte, ← checksIn]

@[simp] theorem onlyPolls_concat_turn :
    OnlyPolls (moments ++ [.turn taken]) ↔
      OnlyPolls moments ∧ taken.worker.phase.polls = true :=
  forall_turnsOf_concat_turn moments taken

@[simp] theorem onlyPolls_concat_byte :
    OnlyPolls (moments ++ [.byte core byte]) ↔ OnlyPolls moments := by
  rw [OnlyPolls, turnsOf_concat_byte, ← OnlyPolls]

end

namespace Worker

variable {core : Core} {worker next : Worker} {choice : Choice} {frames : List Frame}

/-- The way into a poll begins with a cycle. -/
theorem Flow.into_poll (h : Flow core worker choice frames next)
    (hnext : next.phase.polls = true ∨ next.phase = .committing) :
    worker.phase = .openingCycle ∨ worker.phase.polls = true := by
  cases h with
  | opened hphase => exact .inl hphase
  | committed hphase =>
      simp only [goto, afterCommit] at hnext
      repeat' split at hnext
      all_goals rcases hnext with hnext | hnext <;> cases hnext
  | reported hphase =>
      simp only [goto, afterReport] at hnext
      split at hnext <;> rcases hnext with hnext | hnext <;> cases hnext
  | settled hphase | hurried hphase | registered hphase | checked hphase | wrote hphase
  | failed hphase | inventoried hphase | counted hphase | uncounted hphase | empty hphase
  | found hphase | read hphase | absorbed hphase | again hphase | polled hphase =>
      right
      rw [hphase]
      rfl
  | _ => rcases hnext with hnext | hnext <;> cases hnext

/-- A cycle begins with the pause before its first poll. -/
theorem Flow.from_openingCycle (h : Flow core worker choice frames next)
    (hphase : worker.phase = .openingCycle) :
    next = { worker with phase := .settling, attempt := 0 } := by
  cases h with
  | opened => rfl
  | rested hrested =>
      rcases hrested with hrested | hrested
      · simp [hphase] at hrested
      · simp [hphase] at hrested
  | stopped hstopped => simp [hphase] at hstopped
  | _ => simp_all

/-- A cycle has at least one poll. -/
theorem Flow.attempts_pos (h : Flow core worker choice frames next) (hpos : 0 < worker.attempts) :
    0 < next.attempts := by
  cases h with
  | tuned => exact Nat.lt_of_lt_of_le Nat.one_pos (Nat.le_max_right _ _)
  | _ => exact hpos

end Worker

namespace Course

variable {Aside : Core → Core → Prop} {start core : Core} {spawned worker : Worker}
  {moments : List Moment}

/-- The cycle in progress: it was begun by a turn of its own, and since then the worker only
polled. -/
theorem cycle (h : Course Aside start spawned moments core worker)
    (hspawned : spawned.phase = .starting)
    (hphase : worker.phase.polls = true ∨ worker.phase = .committing) :
    ∃ before opening cycle, moments = before ++ .turn opening :: cycle ∧
      opening.worker.phase = .openingCycle ∧
      Course Aside start spawned before opening.core opening.worker ∧
      opening.worker.step opening.core opening.choice = some opening.advance ∧
      Course Aside opening.advance.core opening.advance.next cycle core worker ∧
      OnlyPolls cycle := by
  refine h.entered (fun phase => phase.polls = true ∨ phase = .committing) ?_ ?_ hphase
  · rw [hspawned]
    rintro (hstarting | hstarting) <;> cases hstarting
  · intro moments turn _ hstep hnext
    exact ((Worker.step_flow hstep).into_poll hnext).imp_right fun hpolls => ⟨.inl hpolls, hpolls⟩

end Course

/-! ## One cycle -/

/-- Whether the poll in progress has asked for its inventory. -/
def WorkerPhase.asks : WorkerPhase → Nat
  | asking .inventory exchange => if exchange.isWritten then 1 else 0
  | asking .. | counting | absorbing _ | checkingStop | committing => 1
  | _ => 0

/-- How far a cycle has come: `cycle` are its moments since it was begun. -/
structure Polling (attempts : Nat) (cycle : List Moment) (worker : Worker) : Prop where
  attempts_eq : worker.attempts = attempts
  attempt_lt : worker.attempt < attempts
  /-- A stop that ends the pause before a poll keeps it from asking. -/
  inventories : inventoriesIn cycle = worker.attempt + worker.phase.asks ∨
    worker.phase = .checkingStop ∧ worker.stopRequested = true
  checks : checksIn cycle = worker.attempt + if worker.phase = .committing then 1 else 0
  /-- Nothing is left to be polled before the commit, and no stop was requested so far. -/
  last : worker.phase = .committing →
    worker.attempt + 1 = attempts ∧ ∀ turn ∈ turnsOf cycle, turn.worker.stopRequested = false

/-- The frame of an inventory, and no other, has its opcode. -/
theorem PollStage.command_frame_iff (config : EngineConfig) (stage : PollStage) :
    (stage.frame config).command = Command.inventory.code ↔ stage = .inventory := by
  cases stage with
  | inventory => exact iff_of_true rfl rfl
  | count =>
      have hne : Command.getInventoryBufferTagCount.code ≠ Command.inventory.code := by decide
      exact iff_of_false hne nofun
  | buffer announced =>
      have hne : Command.getAndResetInventoryBuffer.code ≠ Command.inventory.code := by decide
      exact iff_of_false hne nofun

namespace Polling

variable {attempts : Nat} {cycle : List Moment} {worker next : Worker} {taken : Turn}
  {frames : List Frame}

theorem settling {opening : Worker} (hattempts : opening.attempts = attempts)
    (hsome : 0 < attempts) :
    Polling attempts [] { opening with phase := .settling, attempt := 0 } where
  attempts_eq := hattempts
  attempt_lt := hsome
  inventories := .inl rfl
  checks := rfl
  last := nofun

theorem silent (h : Polling attempts cycle taken.worker) (hframes : taken.frames = [])
    (hpolls : taken.worker.phase.polls = true) (hcheck : taken.worker.phase ≠ .checkingStop)
    (hasks : next.phase.asks = taken.worker.phase.asks)
    (hattempt : next.attempt = taken.worker.attempt)
    (hattempts : next.attempts = taken.worker.attempts) (hcommit : next.phase ≠ .committing) :
    Polling attempts (cycle ++ [.turn taken]) next where
  attempts_eq := hattempts.trans h.attempts_eq
  attempt_lt := hattempt ▸ h.attempt_lt
  inventories := by
    rw [inventoriesIn_concat_turn, hframes, hasks, hattempt]
    exact .inl (h.inventories.resolve_right fun hstopped => hcheck hstopped.1)
  checks := by
    have hpolling : taken.worker.phase ≠ .committing := by
      intro heq
      rw [heq] at hpolls
      cases hpolls
    rw [checksIn_concat_turn, if_neg hcheck, if_neg hcommit, hattempt, h.checks,
      if_neg hpolling]
  last := fun heq => absurd heq hcommit

theorem write {stage : PollStage} {ticket : Ticket} {config : EngineConfig}
    (h : Polling attempts cycle taken.worker)
    (hphase : taken.worker.phase = .asking stage (.writing ticket))
    (hframes : taken.frames = [stage.frame config]) :
    Polling attempts (cycle ++ [.turn taken])
      (taken.worker.goto (.asking stage (.awaiting ticket))) where
  attempts_eq := h.attempts_eq
  attempt_lt := h.attempt_lt
  inventories := by
    have hasked := h.inventories.resolve_right (by simp [hphase])
    rw [hphase] at hasked
    rw [inventoriesIn_concat_turn, hframes, hasked, List.countP_singleton]
    left
    simp only [PollStage.command_frame_iff]
    cases stage <;> rfl
  checks := by
    rw [checksIn_concat_turn, h.checks, hphase]
    rfl
  last := nofun

theorem step (h : Polling attempts cycle taken.worker)
    (hcalm : taken.worker.stopRequested = false →
      ∀ turn ∈ turnsOf cycle, turn.worker.stopRequested = false)
    (hpolls : taken.worker.phase.polls = true)
    (hflow : Worker.Flow taken.core taken.worker taken.choice frames next)
    (hframes : taken.frames = frames)
    (hnext : next.phase.polls = true ∨ next.phase = .committing) :
    Polling attempts (cycle ++ [.turn taken]) next := by
  obtain ⟨core, worker, choice, advance⟩ := taken
  dsimp only at hcalm hpolls hflow
  cases hflow with
  | settled hphase | inventoried hphase | counted hphase | uncounted hphase | empty hphase
  | found hphase | read hphase | absorbed hphase =>
      refine h.silent hframes hpolls (by simp [hphase]) ?_ rfl rfl nofun
      rw [hphase]
      rfl
  | @registered stage hphase | @checked stage ticket hphase =>
      refine h.silent hframes hpolls (by simp [hphase]) ?_ rfl rfl nofun
      rw [hphase]
      cases stage <;> rfl
  | wrote hphase => exact h.write hphase hframes
  | hurried hphase hstop =>
      exact {
        attempts_eq := h.attempts_eq
        attempt_lt := h.attempt_lt
        inventories := .inr ⟨rfl, hstop⟩
        checks := by
          rw [checksIn_concat_turn, h.checks, hphase]
          rfl
        last := nofun }
  | again hphase hstop hmore =>
      have hasked := h.inventories.resolve_right (by simp [hstop])
      exact {
        attempts_eq := h.attempts_eq
        attempt_lt := h.attempts_eq ▸ hmore
        inventories := by
          rw [inventoriesIn_concat_turn, hframes, hasked, hphase]
          exact .inl rfl
        checks := by
          rw [checksIn_concat_turn, h.checks, hphase]
          rfl
        last := nofun }
  | polled hphase hstop hlast =>
      have hasked := h.inventories.resolve_right (by simp [hstop])
      have hattempts := h.attempts_eq
      have hless := h.attempt_lt
      refine ⟨hattempts, hless, .inl ?_, ?_, fun _ => ⟨?_, ?_⟩⟩
      · rw [inventoriesIn_concat_turn, hframes, hasked, hphase]
        rfl
      · rw [checksIn_concat_turn, h.checks, hphase]
        rfl
      · simp only [Worker.goto]
        dsimp only at hattempts hless
        omega
      · -- a stop that was requested before would still be there
        exact (forall_turnsOf_concat_turn _ _).mpr ⟨hcalm hstop, hstop⟩
  | failed | stopped => rcases hnext with hnext | hnext <;> cases hnext
  -- ways outside a poll
  | begun hphase | scheduled hphase | finished hphase | continued hphase | ceased hphase
  | tuned hphase | woke hphase | roused hphase | opened hphase | committed hphase | spaced hphase
  | unspaced hphase | resumed hphase | collected hphase | reported hphase | left hphase =>
      rw [hphase] at hpolls
      cases hpolls
  | rested hphase =>
      rcases hphase with hphase | hphase
      all_goals
        rw [hphase] at hpolls
        cases hpolls

theorem byte (h : Polling attempts cycle worker) (core : Core) (byte : UInt8) :
    Polling attempts (cycle ++ [.byte core byte]) worker where
  attempts_eq := h.attempts_eq
  attempt_lt := h.attempt_lt
  inventories := by
    rw [inventoriesIn_concat_byte]
    exact h.inventories
  checks := by
    rw [checksIn_concat_byte]
    exact h.checks
  last := by
    rw [turnsOf_concat_byte]
    exact h.last

/-- Others may only ask for a stop. -/
theorem spared {same : Worker} (h : Polling attempts cycle worker)
    (hspared : worker.Spared same) : Polling attempts cycle same := by
  rcases hspared with rfl | rfl
  · exact h
  · refine ⟨h.attempts_eq, h.attempt_lt, ?_, h.checks, h.last⟩
    exact h.inventories.imp_right fun hstopped => ⟨hstopped.1, rfl⟩

/-- At the commit a cycle has done all its polls. -/
theorem complete (h : Polling attempts cycle worker) (hphase : worker.phase = .committing) :
    inventoriesIn cycle = attempts ∧ checksIn cycle = attempts ∧
      ∀ turn ∈ turnsOf cycle, turn.worker.stopRequested = false := by
  obtain ⟨hlast, hcalm⟩ := h.last hphase
  have hasked := h.inventories.resolve_right (by simp [hphase])
  have hchecked := h.checks
  rw [hphase] at hasked hchecked
  exact ⟨hasked.trans hlast, hchecked.trans hlast, hcalm⟩

end Polling

namespace Course

variable {Aside : Core → Core → Prop} {start core : Core} {spawned worker opening : Worker}
  {plan : RunPlan} {moments cycle earlier later : List Moment}

theorem calm (h : Course Aside start spawned moments core worker)
    (hstop : worker.stopRequested = false) :
    ∀ turn ∈ turnsOf moments, turn.worker.stopRequested = false := by
  induction h with
  | nil => exact forall_turnsOf_nil _
  | turn h hstep ih =>
      rw [(Worker.step_flow hstep).keeps.2] at hstop
      exact (forall_turnsOf_concat_turn _ _).mpr ⟨ih hstop, hstop⟩
  | byte h byte ih =>
      rw [turnsOf_concat_byte]
      exact ih hstop
  | aside h hcore hworker ih =>
      rcases hworker with rfl | rfl
      · exact ih hstop
      · cases hstop

/-- How far a cycle has come, while it is polled. -/
theorem polling
    (h : Course Aside start { opening with phase := .settling, attempt := 0 } cycle core worker)
    (hsome : 0 < opening.attempts) (honly : OnlyPolls cycle)
    (hphase : worker.phase.polls = true ∨ worker.phase = .committing) :
    Polling opening.attempts cycle worker := by
  induction h with
  | nil => exact .settling rfl hsome
  | turn h hstep ih =>
      obtain ⟨honly, hpolls⟩ := (onlyPolls_concat_turn _ _).mp honly
      exact (ih honly (.inl hpolls)).step h.calm hpolls (Worker.step_flow hstep) rfl hphase
  | byte h byte ih =>
      exact (ih ((onlyPolls_concat_byte _ _ _).mp honly) hphase).byte _ byte
  | aside h hcore hworker ih =>
      rw [hworker.phase_eq] at hphase
      exact (ih honly hphase).spared hworker

theorem attempts_pos (h : Course Aside start (.spawn plan) moments core worker) :
    0 < worker.attempts := by
  induction h with
  | nil => exact Nat.one_pos
  | turn h hstep ih => exact (Worker.step_flow hstep).attempts_pos ih
  | byte h byte ih => exact ih
  | aside h hcore hworker ih =>
      rw [hworker.attempts_eq]
      exact ih

/-- The cycle that a turn commits, from the turn that began it. -/
theorem cycle_of_commit {commit : Turn}
    (h : Course Aside start (.spawn plan) (earlier ++ .turn commit :: later) core worker)
    (hphase : commit.worker.phase = .committing) :
    ∃ before opening cycle, earlier = before ++ .turn opening :: cycle ∧
      opening.worker.phase = .openingCycle ∧
      Course Aside start (.spawn plan) before opening.core opening.worker ∧
      opening.worker.step opening.core opening.choice = some opening.advance ∧
      Course Aside opening.advance.core opening.advance.next cycle commit.core commit.worker ∧
      OnlyPolls cycle ∧ Polling opening.worker.attempts cycle commit.worker := by
  obtain ⟨before, opening, cycle, hsplit, hopening, hbefore, hopened, hcycle, honly⟩ :=
    h.turn_split.1.cycle rfl (.inr hphase)
  refine ⟨before, opening, cycle, hsplit, hopening, hbefore, hopened, hcycle, honly, ?_⟩
  rw [(Worker.step_flow hopened).from_openingCycle hopening] at hcycle
  exact hcycle.polling hbefore.attempts_pos honly (.inr hphase)

/-- No step of a cycle that is still polled has failed. -/
theorem unfailing (h : Course Aside start spawned cycle core worker) (honly : OnlyPolls cycle)
    (hphase : worker.phase.polls = true ∨ worker.phase = .committing) :
    ∀ turn ∈ turnsOf cycle, ∀ failure, turn.advance.next.phase ≠ .leaving failure := by
  induction h with
  | nil => exact forall_turnsOf_nil _
  | turn h hstep ih =>
      obtain ⟨honly, hpolls⟩ := (onlyPolls_concat_turn _ _).mp honly
      refine (forall_turnsOf_concat_turn _ _).mpr ⟨ih honly (.inl hpolls), ?_⟩
      intro failure heq
      dsimp only at heq
      rw [heq] at hphase
      rcases hphase with hphase | hphase <;> cases hphase
  | byte h byte ih =>
      rw [turnsOf_concat_byte]
      exact ih ((onlyPolls_concat_byte _ _ _).mp honly) hphase
  | aside h hcore hworker ih =>
      rw [hworker.phase_eq] at hphase
      exact ih honly hphase

end Course

end TagInventory
