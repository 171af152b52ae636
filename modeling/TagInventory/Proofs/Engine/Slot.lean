import TagInventory.Proofs.Engine.Invariant

/-!
# Who holds a run

The lock of the slot is held by the thread between taking and giving it back, and a run
that is not over is never lost sight of: it is in the slot, or a thread that started or
stops it has it in hand.  `Guarded` is this invariant.  It is stated about the roster and
the places of the threads alone, so that it goes through every action by one case
distinction on `Call.RunStep` (`Guarded.step`) and one on `SlotStep`.
-/

namespace TagInventory

/-! ## Live workers -/

namespace Roster

variable {roster : Roster}

theorem isOver_setWorker {run : RunId} {before worker : Worker}
    (hbefore : roster.worker? run = some before) (other : RunId) :
    (roster.setWorker run worker).isOver other =
      if other = run then worker.exited else roster.isOver other := by
  rw [isOver, worker?_setWorker run other worker (by rw [hbefore]; rfl), isOver]
  by_cases heq : other = run
  · rw [if_pos heq, if_pos heq]
  · rw [if_neg heq, if_neg heq]

@[simp] theorem isOver_requestStop (run other : RunId) :
    (roster.requestStop run).isOver other = roster.isOver other := by
  rw [isOver, worker?_requestStop, isOver]
  cases roster.worker? other with
  | none => rfl
  | some worker => by_cases heq : other = run <;> simp [heq, Worker.exited]

@[simp] theorem slot_requestStop (run : RunId) : (roster.requestStop run).slot = roster.slot := by
  unfold requestStop
  split <;> rfl

@[simp] theorem holder_requestStop (run : RunId) :
    (roster.requestStop run).holder = roster.holder := by
  unfold requestStop
  split <;> rfl

@[simp] theorem length_requestStop (run : RunId) :
    (roster.requestStop run).workers.length = roster.workers.length := by
  unfold requestStop
  split
  · exact List.length_set ..
  · rfl

/-- A new worker is the only one that was not there before. -/
theorem isOver_spawn {plan : RunPlan} {run : RunId}
    (h : ({ roster with workers := roster.workers ++ [.spawn plan] } : Roster).isOver run = false) :
    run = roster.workers.length ∨ roster.isOver run = false := by
  simp only [isOver, worker?] at h ⊢
  rcases Nat.lt_trichotomy run roster.workers.length with hlt | heq | hgt
  · rw [List.getElem?_append_left hlt] at h
    exact .inr h
  · exact .inl heq
  · rw [List.getElem?_eq_none (by simp; omega)] at h
    cases h

theorem length_live_spawn (plan : RunPlan) :
    ({ roster with workers := roster.workers ++ [.spawn plan] } : Roster).live.length =
      roster.live.length + 1 := by
  simp [live, Worker.spawn, Worker.exited]

/-- Nobody is live when every run is over. -/
theorem live_eq_nil_iff : roster.live = [] ↔ ∀ run, roster.isOver run = true := by
  rw [live, List.filter_eq_nil_iff]
  constructor
  · intro hall run
    rw [isOver]
    cases hworker : roster.worker? run with
    | none => rfl
    | some worker => simpa using hall worker (List.mem_of_getElem? hworker)
  · intro hall worker hmem
    obtain ⟨run, hworker⟩ := List.mem_iff_getElem?.mp hmem
    have hover := hall run
    rw [isOver, worker?, hworker] at hover
    simpa using hover

/-- The number of live workers after one that is live moved. -/
theorem length_live_setWorker {run : RunId} {before worker : Worker}
    (hbefore : roster.worker? run = some before) (hlive : before.exited = false) :
    (roster.setWorker run worker).live.length + (if worker.exited then 1 else 0) =
      roster.live.length := by
  obtain ⟨hlt, hget⟩ := List.getElem?_eq_some_iff.mp hbefore
  have hpos : 0 < (roster.workers.filter fun worker => !worker.exited).length := by
    rw [List.length_pos_iff_exists_mem]
    exact ⟨before, List.mem_filter.mpr ⟨List.mem_of_getElem? hbefore, by simpa using hlive⟩⟩
  rw [live, live, setWorker, ← List.countP_eq_length_filter, List.countP_set hlt, hget,
    List.countP_eq_length_filter]
  cases hexited : worker.exited <;> simp [hlive] <;> omega

theorem length_live_requestStop (run : RunId) :
    (roster.requestStop run).live.length = roster.live.length := by
  unfold requestStop
  cases hrun : roster.worker? run with
  | none => rfl
  | some worker =>
      dsimp only
      obtain ⟨hlt, hget⟩ := List.getElem?_eq_some_iff.mp hrun
      rw [live, live, setWorker, ← List.countP_eq_length_filter, List.countP_set hlt, hget,
        List.countP_eq_length_filter]
      -- a request to stop ends nobody, so that the worker counts as before
      have hsame : ({ worker with stopRequested := true } : Worker).exited = worker.exited := rfl
      rw [hsame]
      cases hexited : worker.exited with
      | true => simp
      | false =>
          have hpos : 0 < (roster.workers.filter fun worker => !worker.exited).length := by
            rw [List.length_pos_iff_exists_mem]
            exact ⟨worker, List.mem_filter.mpr ⟨List.mem_of_getElem? hrun, by simpa using hexited⟩⟩
          simp
          omega

end Roster

/-! ## Places of the threads -/

namespace Grip

/-- Whether the thread holds the lock of the slot. -/
def locks : Grip → Bool
  | free => false
  | starting .checking | starting .locking => false
  | starting _ => true
  | stopping .taking | stopping (.unlocking _) => true
  | stopping _ => false

/-- Whether the thread has found the slot empty or emptied it, and not filled it again. -/
def empties : Grip → Bool
  | starting (.requestingStop _) | starting (.joining _) | starting .raising
  | starting .spawning | starting (.storing _) | starting (.abandoning _) => true
  | stopping (.unlocking _) => true
  | _ => false

/-- The run that the thread has in hand. -/
def run? : Grip → Option RunId
  | starting (.requestingStop run) | starting (.joining run) | starting (.storing run) => some run
  | stopping (.unlocking run) => run
  | stopping (.requestingStop run) | stopping (.joining run) => some run
  | _ => none

/-- The run that the thread has in hand without holding the lock. -/
def detached? : Grip → Option RunId
  | stopping (.requestingStop run) | stopping (.joining run) => some run
  | _ => none

theorem locks_of_empties {grip : Grip} (h : grip.empties = true) : grip.locks = true := by
  cases grip with
  | free => cases h
  | starting step => cases step <;> first | rfl | cases h
  | stopping step => cases step <;> first | rfl | cases h

theorem detached?_of_run? {grip : Grip} {run : RunId} (h : grip.run? = some run)
    (hlocks : grip.locks = false) : grip.detached? = some run := by
  cases grip with
  | free => cases h
  | starting step =>
      cases step with
      | checking | locking => cases h
      | _ => cases hlocks
  | stopping step =>
      cases step with
      | requestingStop | joining => exact h
      | locking | stopped => cases h
      | taking | unlocking => cases hlocks

end Grip

/-- The lock is held by the thread that is between taking it and giving it back, the slot
is empty from taking the run out until a new one is put in, and every live run is in the
slot or in the hand of a thread. -/
structure Guarded (roster : Roster) (grips : Thread → Grip) : Prop where
  holder : ∀ thread, (grips thread).locks = true → roster.holder = some thread
  slot : ∀ thread, (grips thread).empties = true → roster.slot = none
  kept : ∀ run, roster.isOver run = false →
    roster.slot = some run ∨ ∃ thread, (grips thread).run? = some run

namespace Guarded

variable {roster roster' : Roster} {grips grips' : Thread → Grip} {thread : Thread}
  {after : Grip}

theorem initial {grips : Thread → Grip} (h : ∀ thread, grips thread = .free) :
    Guarded .initial grips where
  holder := by
    intro thread hlocks
    rw [h] at hlocks
    cases hlocks
  slot := fun _ _ => rfl
  kept := by
    intro run hover
    cases hover

/-- Two threads do not hold the lock. -/
theorem locks_inj (h : Guarded roster grips) {first second : Thread}
    (hfirst : (grips first).locks = true) (hsecond : (grips second).locks = true) :
    first = second := by
  have heq := (h.holder first hfirst).symm.trans (h.holder second hsecond)
  exact Option.some.inj heq

private theorem holder_step (h : Guarded roster grips)
    (hstep : Call.RunStep thread roster (grips thread) after roster') :
    (after.locks = true → roster'.holder = some thread) ∧
      ∀ other, other ≠ thread → roster.holder = some other → roster'.holder = some other := by
  generalize hbefore : grips thread = before at hstep
  have hmine (hlocks : before.locks = true) : roster.holder = some thread :=
    h.holder thread (by rw [hbefore, hlocks])
  -- whoever gives the lock back had it, and nobody else did
  have hfreed (hlocks : before.locks = true) (other : Thread) (hother : other ≠ thread)
      (hheld : roster.holder = some other) : False := by
    rw [hmine hlocks] at hheld
    exact hother (Option.some.inj hheld).symm
  cases hstep with
  | elsewhere _ hafter =>
      refine ⟨?_, fun _ _ hheld => hheld⟩
      intro hlocks
      rcases hafter with rfl | rfl | rfl <;> cases hlocks
  | refused | accepted => exact ⟨fun hlocks => (by cases hlocks), fun _ _ hheld => hheld⟩
  | startLocked hholder | stopLocked hholder =>
      refine ⟨fun _ => rfl, ?_⟩
      intro other _ hheld
      rw [hholder] at hheld
      cases hheld
  | startUnlocked | abandoned | stopFreed | stopFound =>
      refine ⟨fun hlocks => (by cases hlocks), ?_⟩
      intro other hother hheld
      exact (hfreed rfl other hother hheld).elim
  | startRequested old =>
      rw [Roster.holder_requestStop]
      exact ⟨fun _ => hmine rfl, fun _ _ hheld => hheld⟩
  | stopRequested old =>
      rw [Roster.holder_requestStop]
      exact ⟨fun hlocks => (by cases hlocks), fun _ _ hheld => hheld⟩
  | stopJoined => exact ⟨fun hlocks => (by cases hlocks), fun _ _ hheld => hheld⟩
  | startTook | startFound | startJoined | raised | spawned | unspawned | stored | stopTook =>
      exact ⟨fun _ => hmine rfl, fun _ _ hheld => hheld⟩

private theorem slot_step (h : Guarded roster grips)
    (hstep : Call.RunStep thread roster (grips thread) after roster') :
    (after.empties = true → roster'.slot = none) ∧
      ∀ other, other ≠ thread → (grips other).empties = true → roster'.slot = none := by
  generalize hbefore : grips thread = before at hstep
  have hmine (hempties : before.empties = true) : roster.slot = none :=
    h.slot thread (by rw [hbefore, hempties])
  have hothers (other : Thread) (_ : other ≠ thread) (hempties : (grips other).empties = true) :
      roster.slot = none := h.slot other hempties
  cases hstep with
  | elsewhere _ hafter =>
      refine ⟨?_, hothers⟩
      intro hempties
      rcases hafter with rfl | rfl | rfl <;> cases hempties
  | startTook | stopTook => exact ⟨fun _ => rfl, fun _ _ _ => rfl⟩
  | startFound hslot => exact ⟨fun _ => hslot, hothers⟩
  | startRequested old =>
      rw [Roster.slot_requestStop]
      exact ⟨fun _ => hmine rfl, hothers⟩
  | stopRequested old =>
      rw [Roster.slot_requestStop]
      exact ⟨fun hempties => (by cases hempties), hothers⟩
  | startJoined | raised | spawned | unspawned => exact ⟨fun _ => hmine rfl, hothers⟩
  | stored run =>
      refine ⟨fun hempties => (by cases hempties), ?_⟩
      -- the thread that stores holds the lock, so that no other one is at work on the slot
      intro other hother hempties
      have hlocks : (grips thread).locks = true := by rw [hbefore]; rfl
      exact absurd (h.locks_inj (Grip.locks_of_empties hempties) hlocks) hother
  | refused | accepted | startLocked | startUnlocked | abandoned | stopLocked | stopFreed
  | stopFound | stopJoined => exact ⟨fun hempties => (by cases hempties), hothers⟩

/-- Where a live run is after a step: where it was before, or it moved between the slot
and the hand of the thread, or it is new. -/
private theorem kept_step (h : Guarded roster grips)
    (hstep : Call.RunStep thread roster (grips thread) after roster') {run : RunId}
    (hover : roster'.isOver run = false) :
    roster'.slot = some run ∨ after.run? = some run ∨
      ∃ other, other ≠ thread ∧ (grips other).run? = some run := by
  generalize hbefore : grips thread = before at hstep
  -- a run that was live was in the slot, in this hand or in another one
  have hcase (hold : roster.isOver run = false) : roster.slot = some run ∨
      before.run? = some run ∨ ∃ other, other ≠ thread ∧ (grips other).run? = some run := by
    rcases h.kept run hold with hslot | ⟨holder, hholder⟩
    · exact .inl hslot
    · by_cases heq : holder = thread
      · subst heq
        rw [hbefore] at hholder
        exact .inr (.inl hholder)
      · exact .inr (.inr ⟨holder, heq, hholder⟩)
  cases hstep with
  | elsewhere hwhere =>
      rcases hcase hover with hslot | hmine | hother
      · exact .inl hslot
      · rcases hwhere with rfl | rfl <;> cases hmine
      · exact .inr (.inr hother)
  | startTook old hslot =>
      rcases hcase hover with hrun | hmine | hother
      · exact .inr (.inl (hslot.symm.trans hrun))
      · cases hmine
      · exact .inr (.inr hother)
  | stopTook =>
      rcases hcase hover with hrun | hmine | hother
      · exact .inr (.inl hrun)
      · cases hmine
      · exact .inr (.inr hother)
  | startRequested old | stopRequested old =>
      rw [Roster.isOver_requestStop] at hover
      rw [Roster.slot_requestStop]
      exact hcase hover
  | startJoined old hdone | stopJoined old hdone =>
      rcases hcase hover with hslot | hmine | hother
      · exact .inl hslot
      · cases hmine
        rw [hdone] at hover
        cases hover
      · exact .inr (.inr hother)
  | spawned plan =>
      -- a live run is the new one, or it was live before
      rcases Roster.isOver_spawn hover with rfl | hold
      · exact .inr (.inl rfl)
      · rcases hcase hold with hslot | hmine | hother
        · exact .inl hslot
        · cases hmine
        · exact .inr (.inr hother)
  | stored stored =>
      -- no run is lost from the slot, for it was empty
      have hempty : roster.slot = none := h.slot thread (by rw [hbefore]; rfl)
      rcases hcase hover with hslot | hmine | hother
      · rw [hempty] at hslot
        cases hslot
      · exact .inl hmine
      · exact .inr (.inr hother)
  | stopFreed old => exact hcase hover
  | refused | accepted | startLocked | startFound | raised | unspawned | startUnlocked
  | abandoned | stopLocked | stopFound =>
      rcases hcase hover with hslot | hmine | hother
      · exact .inl hslot
      · cases hmine
      · exact .inr (.inr hother)

theorem step (h : Guarded roster grips)
    (hstep : Call.RunStep thread roster (grips thread) (grips' thread) roster')
    (hothers : ∀ other, other ≠ thread → grips' other = grips other) :
    Guarded roster' grips' := by
  obtain ⟨hholder, hholders⟩ := h.holder_step hstep
  obtain ⟨hslot, hslots⟩ := h.slot_step hstep
  constructor
  · intro other hlocks
    by_cases heq : other = thread
    · subst heq
      exact hholder hlocks
    · rw [hothers other heq] at hlocks
      exact hholders other heq (h.holder other hlocks)
  · intro other hempties
    by_cases heq : other = thread
    · subst heq
      exact hslot hempties
    · rw [hothers other heq] at hempties
      exact hslots other heq hempties
  · intro run hover
    -- a run in the hand of another thread stays there
    rcases h.kept_step hstep hover with hrun | hrun | ⟨other, hother, hrun⟩
    · exact .inl hrun
    · exact .inr ⟨thread, hrun⟩
    · exact .inr ⟨other, by rw [hothers other hother, hrun]⟩

/-- The invariant does not depend on where the workers are, as long as none comes back. -/
theorem of_isOver (h : Guarded roster grips) (hholder : roster'.holder = roster.holder)
    (hslot : roster'.slot = roster.slot)
    (hover : ∀ run, roster'.isOver run = false → roster.isOver run = false) :
    Guarded roster' grips := by
  constructor
  · rw [hholder]
    exact h.holder
  · rw [hslot]
    exact h.slot
  · rw [hslot]
    exact fun run hrun => h.kept run (hover run hrun)

end Guarded

end TagInventory
