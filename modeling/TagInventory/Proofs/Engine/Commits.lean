import TagInventory.Proofs.Engine.Course
import TagInventory.Proofs.Tag.Comparison

/-!
# What a run does to the views

Every moment of a run is a list of operations on the views: a turn is the operation of its
place, and a byte records the tag of the reply that it completes.  In a run of a single worker
nobody else touches them, so that the views are those of this history (`Course.tags_eq`), and
the snapshot is the one that was committed last (`Course.snapshot_eq`).
-/

namespace TagInventory

namespace Core

/-- What a byte does to the views. -/
def recordsOf (core : Core) (byte : UInt8) : List TagOperation :=
  ((core.receiver.replyTo? byte).bind Reply.tag?).toList.map .record

/-- A byte records the tag of the reply that it completes. -/
theorem tags_receive {core : Core} (hdrained : core.session.Drained) (byte : UInt8) :
    (core.receive byte).tags = core.tags.afterAll (core.recordsOf byte) := by
  rw [recordsOf]
  cases hreply : core.receiver.replyTo? byte with
  | none =>
      rw [receive_of_none hreply]
      rfl
  | some reply =>
      rw [receive_of_reply hdrained hreply, Option.bind_some]
      cases reply.tag? with
      | none => rfl
      | some tag => rfl

end Core

/-- What a moment does to the views. -/
def Moment.operations : Moment → List TagOperation
  | .turn taken => taken.worker.operation?.toList
  | .byte core received => core.recordsOf received

/-- What some moments do to the views, in order. -/
def operationsIn (moments : List Moment) : List TagOperation :=
  moments.flatMap Moment.operations

/-- The snapshots that were committed, in order. -/
def snapshotsIn (moments : List Moment) : List View :=
  (commitsOf moments).map fun turn => turn.advance.core.tags.snapshot

section

variable (moments : List Moment) (taken : Turn) (core : Core) (byte : UInt8)

@[simp] theorem operationsIn_append (later : List Moment) :
    operationsIn (moments ++ later) = operationsIn moments ++ operationsIn later :=
  List.flatMap_append ..

@[simp] theorem operationsIn_turn (later : List Moment) :
    operationsIn (.turn taken :: later) = taken.worker.operation?.toList ++ operationsIn later :=
  List.flatMap_cons ..

@[simp] theorem operationsIn_byte :
    operationsIn [.byte core byte] = core.recordsOf byte :=
  List.flatMap_singleton ..

@[simp] theorem operationsIn_nil : operationsIn [] = [] := rfl

theorem snapshotsIn_concat_turn :
    snapshotsIn (moments ++ [.turn taken]) = snapshotsIn moments ++
      if taken.commits then [taken.advance.core.tags.snapshot] else [] := by
  rw [snapshotsIn, commitsOf_concat_turn, List.map_append, ← snapshotsIn]
  split <;> rfl

@[simp] theorem snapshotsIn_concat_byte :
    snapshotsIn (moments ++ [.byte core byte]) = snapshotsIn moments := by
  rw [snapshotsIn, commitsOf_concat_byte, ← snapshotsIn]

end

/-- The turn that commits a cycle is the one that changes the snapshot. -/
theorem Worker.operation?_eq_commit {worker : Worker} :
    worker.operation? = some .commit ↔ worker.phase = .committing := by
  constructor
  · intro h
    cases hphase : worker.phase with
    | committing => rfl
    | starting =>
        rw [operation?, hphase] at h
        cases hplan : worker.plan <;> rw [hplan] at h <;> cases h
    | asking stage exchange =>
        rw [operation?, hphase] at h
        cases stage <;> cases exchange <;> cases h
    | _ =>
        rw [operation?, hphase] at h
        cases h
  · intro h
    rw [operation?, h]

theorem Worker.tags_of_commit {core : Core} {worker : Worker} {choice : Choice}
    {advance : Advance Worker} (hphase : worker.phase = .committing)
    (hstep : worker.step core choice = some advance) : advance.core.tags = core.tags.commit := by
  rw [step_tags hstep, operation?_eq_commit.mpr hphase]
  rfl

/-- Only a commit changes the snapshot. -/
theorem TagViews.snapshot_afterAll {operations : List TagOperation}
    (h : .commit ∉ operations) (views : TagViews) :
    (views.afterAll operations).snapshot = views.snapshot := by
  induction operations generalizing views with
  | nil => rfl
  | cons operation operations ih =>
      rw [List.mem_cons, not_or] at h
      rw [afterAll_cons, ih h.2, snapshot_after_of_ne (Ne.symm h.1)]

namespace Course

variable {start core : Core} {spawned worker : Worker} {moments : List Moment}

/-- The views after a run of a single worker are those of its history. -/
theorem tags_eq (h : Course Core.Leaves start spawned moments core worker)
    (hdrained : start.session.Drained) :
    core.tags = start.tags.afterAll (operationsIn moments) := by
  induction h with
  | nil => rfl
  | turn h hstep ih =>
      rw [Worker.step_tags hstep, ih, operationsIn_append, TagViews.afterAll_append,
        operationsIn_turn, operationsIn_nil, List.append_nil]
  | byte h byte ih =>
      rw [Core.tags_receive (h.drained hdrained), ih, operationsIn_append,
        TagViews.afterAll_append, operationsIn_byte]
  | aside h hcore hworker ih => rw [hcore.tags_eq, ih]

/-- The snapshot is the one that was committed last. -/
theorem snapshot_eq (h : Course Core.Leaves start spawned moments core worker)
    (hdrained : start.session.Drained) :
    core.tags.snapshot = (snapshotsIn moments).getLastD start.tags.snapshot := by
  induction h with
  | nil => rfl
  | @turn moments core worker h choice advance hstep ih =>
      rw [snapshotsIn_concat_turn]
      by_cases hcommits : (Turn.mk core worker choice advance).commits = true
      · rw [if_pos hcommits, List.getLastD_concat]
      · have hplace : worker.phase ≠ .committing :=
          fun heq => hcommits (Turn.commits_iff.mpr heq)
        -- no other turn touches the snapshot
        have hkept : .commit ∉ worker.operation?.toList := by
          rw [Option.mem_toList]
          exact mt Worker.operation?_eq_commit.mp hplace
        rw [if_neg hcommits, List.append_nil, Worker.step_tags hstep,
          TagViews.snapshot_afterAll hkept, ih]
  | @byte moments core worker h byte ih =>
      have hkept : .commit ∉ core.recordsOf byte := by
        simp [Core.recordsOf]
      rw [snapshotsIn_concat_byte, Core.tags_receive (h.drained hdrained),
        TagViews.snapshot_afterAll hkept, ih]
  | aside h hcore hworker ih => rw [hcore.tags_eq, ih]

/-- A cycle leaves the snapshot as it was, unless it is committed. -/
theorem snapshot_of_uncommitted {before rest : List Moment} {opening : Turn}
    (h : Course Core.Leaves start spawned (before ++ .turn opening :: rest) core worker)
    (hdrained : start.session.Drained) (hopening : opening.worker.phase = .openingCycle)
    (hnone : commitsOf rest = []) : core.tags.snapshot = opening.core.tags.snapshot := by
  have hcommits : opening.commits = false := by
    rw [Turn.commits, hopening]
    rfl
  have hrest : commitsOf (.turn opening :: rest) = [] := by
    rw [← List.singleton_append, commitsOf_append, hnone, List.append_nil]
    simp [commitsOf, turnsOf, Moment.turn?, hcommits]
  have hkept : snapshotsIn (before ++ .turn opening :: rest) = snapshotsIn before := by
    rw [snapshotsIn, snapshotsIn, commitsOf_append, hrest, List.append_nil]
  rw [h.snapshot_eq hdrained, h.turn_split.1.snapshot_eq hdrained, hkept]

end Course

end TagInventory
