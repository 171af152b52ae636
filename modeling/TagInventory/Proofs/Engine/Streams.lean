import TagInventory.Proofs.Engine.Commits

/-!
# Buffer reads in flight

A turn of a worker begins a buffer read: it empties the view of the read in flight.  From then
on, until the worker does something else to the views, this view holds exactly the tags that
were decoded since (`Course.mem_pending_iff`), whatever they were sent for.
-/

namespace TagInventory

/-- The last moments are those since a buffer read was begun that is still in flight. -/
def Streaming (moments streamed : List Moment) : Prop :=
  ∃ earlier begun, moments = earlier ++ .turn begun :: streamed ∧
    begun.worker.operation? = some .beginBufferRead ∧
    ∀ turn ∈ turnsOf streamed, turn.worker.operation? = none

section

variable {moments streamed : List Moment} {taken : Turn} {core : Core} {received : UInt8}

@[simp] theorem readsIn_concat_turn : readsIn (moments ++ [.turn taken]) = readsIn moments := by
  rw [readsIn, List.filterMap_append, ← readsIn]
  exact List.append_nil _

theorem Streaming.byte (h : Streaming moments streamed) :
    Streaming (moments ++ [.byte core received]) (streamed ++ [.byte core received]) := by
  obtain ⟨earlier, begun, rfl, hbegun, hturns⟩ := h
  refine ⟨earlier, begun, by simp, hbegun, ?_⟩
  rw [turnsOf_concat_byte]
  exact hturns

end

/-- While a worker leaves the views alone, they only record what is decoded. -/
theorem operationsIn_of_silent {moments : List Moment}
    (h : ∀ turn ∈ turnsOf moments, turn.worker.operation? = none) :
    operationsIn moments = (readsIn moments).map .record := by
  induction moments using List.reverseRec with
  | nil => rfl
  | append_singleton moments moment ih =>
      cases moment with
      | turn taken =>
          obtain ⟨hsilent, hnone⟩ := (forall_turnsOf_concat_turn _ _).mp h
          rw [operationsIn_append, operationsIn_turn, hnone, readsIn_concat_turn, ih hsilent]
          exact List.append_nil _
      | byte core received =>
          rw [turnsOf_concat_byte] at h
          rw [operationsIn_append, operationsIn_byte, ih h, readsIn, readsIn,
            List.filterMap_append, List.map_append, Core.recordsOf,
            List.filterMap_eq_flatMap_toList _ [_], List.flatMap_singleton]
          rfl

/-- The places between the beginning of a buffer read and the end of it. -/
def WorkerPhase.reads : WorkerPhase → Bool
  | asking (.buffer _) .opening => false
  | asking (.buffer _) _ | absorbing _ => true
  | _ => false

/-- The way to the end of a buffer read starts with its beginning. -/
theorem Worker.Flow.into_read {core : Core} {worker next : Worker} {choice : Choice}
    {frames : List Frame} (h : Flow core worker choice frames next)
    (hnext : next.phase.reads = true) :
    worker.operation? = some .beginBufferRead ∨
      worker.operation? = none ∧ worker.phase.reads = true := by
  cases h with
  | @registered stage hphase =>
      cases stage with
      | buffer announced => exact .inl (by rw [operation?, hphase])
      | _ => cases hnext
  | @checked stage ticket hphase | @wrote stage ticket hphase =>
      cases stage with
      | buffer announced =>
          rw [operation?, hphase]
          exact .inr ⟨rfl, rfl⟩
      | _ => cases hnext
  | read hphase =>
      rw [operation?, hphase]
      exact .inr ⟨rfl, rfl⟩
  | committed hphase =>
      simp only [goto, afterCommit] at hnext
      repeat' split at hnext
      all_goals cases hnext
  | reported hphase =>
      simp only [goto, afterReport] at hnext
      split at hnext <;> cases hnext
  | _ => cases hnext

namespace Course

variable {start core : Core} {spawned worker : Worker} {moments streamed : List Moment}

theorem streaming {Aside : Core → Core → Prop}
    (h : Course Aside start spawned moments core worker)
    (hspawned : spawned.phase.reads = false) (hreads : worker.phase.reads = true) :
    ∃ streamed, Streaming moments streamed := by
  obtain ⟨earlier, begun, streamed, hsplit, hbegun, -, -, -, hturns⟩ :=
    h.entered (·.reads = true) (by rw [hspawned]; nofun)
      (fun _ hstep hnext => ((Worker.step_flow hstep).into_read hnext).imp_right And.symm) hreads
  exact ⟨streamed, earlier, begun, hsplit, hbegun, hturns⟩

/-- The view of the buffer read in flight holds what was decoded since it was begun. -/
theorem mem_pending_iff (h : Course Core.Leaves start spawned moments core worker)
    (hdrained : start.session.Drained) (hstreaming : Streaming moments streamed) (key : String) :
    key ∈ core.tags.pending.keys ↔ ∃ tag ∈ readsIn streamed, tag.key = key := by
  obtain ⟨earlier, begun, rfl, hbegun, hturns⟩ := hstreaming
  have hrecorded (views : TagViews) (reads : List TagRead) :
      views.afterAll (reads.map .record) = views.recordAll reads :=
    List.foldl_map ..
  rw [h.tags_eq hdrained, operationsIn_append, operationsIn_turn, hbegun,
    operationsIn_of_silent hturns, TagViews.afterAll_append, TagViews.afterAll_append, hrecorded,
    TagViews.mem_pending_recordAll, List.mem_map]
  -- the turn that began the read has emptied the view
  constructor
  · rintro (hkept | hread)
    · cases hkept
    · exact hread
  · exact .inr

end Course

end TagInventory
