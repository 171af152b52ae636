import TagInventory.Engine.Core

/-!
# What is shown to the outside

The events of a step are frames for the reader, reports for the application, and notes for
the log.  Statements are about the first two kinds, each for itself.
-/

namespace TagInventory

/-- The frames among what was shown. -/
def framesOf (events : List Event) : List Frame :=
  events.filterMap fun event =>
    match event with
    | .wrote frame => some frame
    | _ => none

/-- The reports among what was shown. -/
def reportsOf (events : List Event) : List Report :=
  events.filterMap fun event =>
    match event with
    | .reported report => some report
    | _ => none

/-- Whether something is only for the log. -/
def Event.isNote : Event → Bool
  | .noted _ => true
  | _ => false

theorem reportsOf_of_notes {events : List Event} (h : events.all Event.isNote = true) :
    reportsOf events = [] := by
  rw [reportsOf, List.filterMap_eq_nil_iff]
  intro event hevent
  have hnote := List.all_eq_true.mp h event hevent
  cases event with
  | noted notice => rfl
  | wrote | reported => cases hnote

theorem framesOf_of_notes {events : List Event} (h : events.all Event.isNote = true) :
    framesOf events = [] := by
  rw [framesOf, List.filterMap_eq_nil_iff]
  intro event hevent
  have hnote := List.all_eq_true.mp h event hevent
  cases event with
  | noted notice => rfl
  | wrote | reported => cases hnote

/-- Taking over a byte is only noted. -/
theorem Core.notes_receiveEvents (core : Core) (byte : UInt8) :
    (core.receiveEvents byte).all Event.isNote = true := by
  simp [receiveEvents, Event.isNote]

@[simp] theorem framesOf_nil : framesOf [] = [] := rfl

@[simp] theorem framesOf_cons_noted (notice : Notice) (events : List Event) :
    framesOf (.noted notice :: events) = framesOf events := rfl

@[simp] theorem framesOf_cons_reported (report : Report) (events : List Event) :
    framesOf (.reported report :: events) = framesOf events := rfl

@[simp] theorem framesOf_append (first second : List Event) :
    framesOf (first ++ second) = framesOf first ++ framesOf second :=
  List.filterMap_append ..

@[simp] theorem reportsOf_nil : reportsOf [] = [] := rfl

@[simp] theorem reportsOf_cons_noted (notice : Notice) (events : List Event) :
    reportsOf (.noted notice :: events) = reportsOf events := rfl

@[simp] theorem reportsOf_cons_reported (report : Report) (events : List Event) :
    reportsOf (.reported report :: events) = report :: reportsOf events := rfl

@[simp] theorem reportsOf_append (first second : List Event) :
    reportsOf (first ++ second) = reportsOf first ++ reportsOf second :=
  List.filterMap_append ..

@[simp] theorem framesOf_noted (notices : List Notice) :
    framesOf (notices.map Event.noted) = [] := by
  induction notices with
  | nil => rfl
  | cons notice notices ih => exact ih

@[simp] theorem reportsOf_noted (notices : List Notice) :
    reportsOf (notices.map Event.noted) = [] := by
  induction notices with
  | nil => rfl
  | cons notice notices ih => exact ih

end TagInventory
