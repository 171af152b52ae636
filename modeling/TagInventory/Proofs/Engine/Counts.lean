import TagInventory.Proofs.Engine.Standing

/-!
# The count that a poll acts on

A poll sets the count of the session to zero together with opening the wait for the new one.
From then on only answers to requests for the count change it, so that the poll acts on what
the last of them said since then, or on zero (`Course.count_case`).
-/

namespace TagInventory

/-- The count that a reply carries, if it answers a request for it. -/
def Reply.tagCount? : Reply → Option UInt16
  | ⟨.getInventoryBufferTagCount, .ok (.bufferTagCount count)⟩ => some count
  | _ => none

/-- The session keeps its count but for a new one. -/
theorem Session.tagCount_apply (session : Session) {frame : Frame} {reply : Reply}
    (h : Reply.ofFrame? frame = some reply) :
    (session.apply reply).tagCount = reply.tagCount?.getD session.tagCount := by
  obtain ⟨command, result⟩ := reply
  cases result with
  | error error => cases command <;> rfl
  | ok response =>
      cases response with
      | bufferTagCount count =>
          obtain rfl : command = .getInventoryBufferTagCount := Reply.answers h rfl
          rfl
      | _ => cases command <;> rfl

/-- The count that a moment brings. -/
def Moment.tagCount? (moment : Moment) : Option UInt16 :=
  moment.reply?.bind Reply.tagCount?

/-- The counts that were answered, in order. -/
def tagCountsIn (moments : List Moment) : List UInt16 :=
  moments.filterMap Moment.tagCount?

theorem tagCountsIn_concat_turn (moments : List Moment) (taken : Turn) :
    tagCountsIn (moments ++ [.turn taken]) = tagCountsIn moments := by
  rw [tagCountsIn, List.filterMap_append, ← tagCountsIn]
  exact List.append_nil _

theorem getLastD_tagCountsIn_concat_byte (moments : List Moment) (core : Core) (byte : UInt8)
    (count : UInt16) :
    (tagCountsIn (moments ++ [.byte core byte])).getLastD count =
      (Moment.byte core byte).tagCount?.getD ((tagCountsIn moments).getLastD count) := by
  rw [tagCountsIn, List.filterMap_append, ← tagCountsIn, List.filterMap_cons]
  cases (Moment.byte core byte).tagCount? with
  | none => exact congrArg (List.getLastD · count) (List.append_nil _)
  | some answered => exact List.getLastD_concat ..

theorem Core.tagCount_receive {core : Core} (hdrained : core.session.Drained) (byte : UInt8) :
    (core.receive byte).session.tagCount =
      (Moment.byte core byte).tagCount?.getD core.session.tagCount := by
  show _ = ((core.receiver.replyTo? byte).bind Reply.tagCount?).getD _
  cases hreply : core.receiver.replyTo? byte with
  | none =>
      rw [receive_of_none hreply]
      exact congrArg Session.tagCount (Receiver.session_push_of_none hreply)
  | some reply =>
      obtain ⟨frame, -, hframe⟩ := Option.bind_eq_some_iff.mp hreply
      rw [receive_of_reply hdrained hreply]
      exact core.session.tagCount_apply hframe

/-- The places between resetting the count and acting on it. -/
def WorkerPhase.counts : WorkerPhase → Bool
  | asking .count .opening => false
  | asking .count _ | counting => true
  | _ => false

namespace Worker

variable {core : Core} {worker next : Worker} {choice : Choice} {frames : List Frame}

/-- The way to a count begins with resetting it. -/
theorem Flow.into_count (h : Flow core worker choice frames next)
    (hnext : next.phase.counts = true) :
    worker.phase = .asking .count .opening ∨ worker.phase.counts = true := by
  cases h with
  | @registered stage hphase =>
      cases stage with
      | count => exact .inl hphase
      | _ => cases hnext
  | @checked stage ticket hphase | @wrote stage ticket hphase =>
      cases stage with
      | count =>
          rw [hphase]
          exact .inr rfl
      | _ => cases hnext
  | counted hphase =>
      rw [hphase]
      exact .inr rfl
  | committed hphase =>
      simp only [goto, afterCommit] at hnext
      repeat' split at hnext
      all_goals cases hnext
  | reported hphase =>
      simp only [goto, afterReport] at hnext
      split at hnext <;> cases hnext
  | _ => cases hnext

end Worker

namespace Turn

variable {turn : Turn} {count : UInt16}

/-- A poll reads the count when the wait for it was completed, and takes it for zero when that
wait ended in another way. -/
theorem count?_case (h : turn.count? = some count) :
    (turn.worker.phase = .counting ∧ count = turn.core.session.tagCount) ∨
      (count = 0 ∧ ∃ ticket, turn.worker.phase = .asking .count (.awaiting ticket) ∧
        (turn.choice = .proceed → turn.core.waits.outcome? ticket ≠ some .completed)) := by
  unfold count? at h
  split at h
  · rename_i hphase
    exact .inl ⟨hphase, (Option.some.inj h).symm⟩
  · rename_i ticket hphase hchoice
    split at h
    · cases h
    · rename_i houtcome
      exact .inr ⟨(Option.some.inj h).symm, ticket, hphase, fun _ => houtcome⟩
  · rename_i ticket hphase hchoice
    refine .inr ⟨(Option.some.inj h).symm, ticket, hphase, fun hproceed => ?_⟩
    exact absurd hproceed hchoice
  · cases h

/-- A poll without tags is over, and any other one goes on to read the buffer. -/
theorem next_of_count (hcount : turn.count? = some count)
    (hstep : turn.worker.step turn.core turn.choice = some turn.advance) :
    turn.advance.next.phase =
      if count = 0 then .checkingStop else .asking (.buffer count) .opening := by
  have hflow := Worker.step_flow hstep
  generalize framesOf turn.advance.events = frames at hflow
  generalize turn.advance.next = next at hflow ⊢
  rcases count?_case hcount with ⟨hphase, rfl⟩ | ⟨rfl, ticket, hphase, houtcome⟩
  · generalize turn.choice = choice at hflow
    cases hflow with
    | empty _ hempty => exact (if_pos hempty).symm
    | found _ hfound => exact (if_neg hfound).symm
    | _ => simp_all
  · generalize turn.choice = choice at hflow houtcome
    cases hflow with
    | uncounted => exact (if_pos rfl).symm
    | _ => simp_all

end Turn

namespace Course

variable {start core : Core} {spawned worker : Worker} {moments : List Moment}

/-- While a poll waits for the count, only an answer changes the one of the session. -/
theorem tagCount_eq (h : Course Core.Leaves start spawned moments core worker)
    (hdrained : start.session.Drained)
    (hturns : ∀ turn ∈ turnsOf moments, turn.worker.phase.counts = true) :
    core.session.tagCount = (tagCountsIn moments).getLastD start.session.tagCount := by
  induction h with
  | nil => rfl
  | @turn moments core worker h choice advance hstep ih =>
      obtain ⟨hearlier, hcounts⟩ := (forall_turnsOf_concat_turn _ _).mp hturns
      have hnot : worker.phase ≠ .asking .count .opening := by
        intro heq
        dsimp only at hcounts
        rw [heq] at hcounts
        cases hcounts
      rw [Core.session, Worker.step_receiver_eq hstep, if_neg hnot, ← Core.session, ih hearlier,
        tagCountsIn_concat_turn]
  | byte h byte ih =>
      rw [turnsOf_concat_byte] at hturns
      rw [Core.tagCount_receive (h.drained hdrained), ih hturns, getLastD_tagCountsIn_concat_byte]
  | aside h hcore hworker ih =>
      rw [Core.session, hcore.receiver_eq]
      exact ih hturns

/-- Until a poll acts on the count, the session has the last one that was answered since the
poll reset it, or zero. -/
theorem counted (h : Course Core.Leaves start spawned moments core worker)
    (hdrained : start.session.Drained) (hspawned : spawned.phase = .starting)
    (hphase : worker.phase.counts = true) :
    ∃ before reset since, moments = before ++ .turn reset :: since ∧
      reset.worker.phase = .asking .count .opening ∧
      (∀ turn ∈ turnsOf since, turn.worker.phase.counts = true) ∧
      core.session.tagCount = (tagCountsIn since).getLastD 0 := by
  obtain ⟨before, reset, since, hsplit, hreset, hbefore, hstep, hsince, hturns⟩ :=
    h.entered (·.counts = true) (by rw [hspawned]; nofun)
      (fun _ hstep hnext =>
        ((Worker.step_flow hstep).into_count hnext).imp_right fun hcounts => ⟨hcounts, hcounts⟩)
      hphase
  refine ⟨before, reset, since, hsplit, hreset, hturns, ?_⟩
  have hzero : reset.advance.core.session.tagCount = 0 := by
    rw [Core.session, Worker.step_receiver_eq hstep, if_pos hreset]
    rfl
  rw [hsince.tagCount_eq ((hbefore.turn hstep).drained hdrained) hturns, hzero]

/-- A poll acts on the last count that was answered since it reset the one of the session, or
on zero. -/
theorem count_case {earlier later : List Moment} {turn : Turn} {count : UInt16}
    (h : Course Core.Leaves start spawned (earlier ++ .turn turn :: later) core worker)
    (hdrained : start.session.Drained) (hspawned : spawned.phase = .starting)
    (hcount : turn.count? = some count) :
    count = 0 ∨ ∃ before reset since, earlier = before ++ .turn reset :: since ∧
      reset.worker.phase = .asking .count .opening ∧
      (∀ turn ∈ turnsOf since, turn.worker.phase.counts = true) ∧
      (tagCountsIn since).getLast? = some count := by
  obtain ⟨hearlier, -⟩ := h.turn_split
  rcases turn.count?_case hcount with ⟨hphase, rfl⟩ | ⟨rfl, -⟩
  · obtain ⟨before, reset, since, hsplit, hreset, hturns, hlast⟩ :=
      hearlier.counted hdrained hspawned (by rw [hphase]; rfl)
    rw [List.getLastD_eq_getLast?] at hlast
    cases hanswered : (tagCountsIn since).getLast? with
    | none =>
        rw [hanswered] at hlast
        exact .inl hlast
    | some answered =>
        rw [hanswered] at hlast
        exact .inr ⟨before, reset, since, hsplit, hreset, hturns, by rw [hanswered, hlast]; rfl⟩
  · exact .inl rfl

end Course

end TagInventory
