import Mathlib.Data.List.Induction
import Mathlib.Data.List.TakeWhile
import TagInventory.Proofs.Waiting.Line

/-!
# What is delivered to a wait

The window of a wait is what is done from its registration to the next one for the same
command, the next clearing of the table, or the moment at which its holder is done with it.
The first signal in a window is delivered and the others are not, and waiting ends with that
first signal whenever it is asked for; signals outside every window do nothing.

## Strategy

Everything that can be asked about a command is answered by its line
(`WaitingRoom.shows_afterAll`), so that this file is about lines only.  After its
registration a wait is in one of three conditions: it has the place of the command
(`Line.Current`), which lasts for its window; it was replaced (`Line.Replaced`); or it was
given up.  The place of a command belongs to the last registration since the last clearing
(`Line.registered_of_newest`).
-/

namespace TagInventory

namespace WaitOperation

/-- Whether an operation closes the window of a wait. -/
def closes (command : Command) (number : Nat) (operation : WaitOperation) : Bool :=
  operation = .register command ∨ operation = .clear ∨ operation = .leave command number

end WaitOperation

/-- The window of a wait, of what is done after its registration. -/
def windowOf (command : Command) (number : Nat) (later : List WaitOperation) :
    List WaitOperation :=
  later.takeWhile fun operation => !operation.closes command number

/-- The first outcome that is signalled for a command. -/
def firstSignal (command : Command) (history : List WaitOperation) : Option WaitOutcome :=
  history.findSome? (WaitOperation.outcomeFor? command)

theorem firstSignal_cons (command : Command) (operation : WaitOperation)
    (history : List WaitOperation) :
    firstSignal command (operation :: history) =
      (operation.outcomeFor? command).or (firstSignal command history) := by
  rw [firstSignal, List.findSome?_cons]
  cases operation.outcomeFor? command <;> rfl

namespace Line

variable {command : Command} {line : Line} {number : Nat} {delivered : Option WaitOutcome}
  {operation : WaitOperation} {history : List WaitOperation}

theorem afterAll_append (first second : List WaitOperation) :
    line.afterAll command (first ++ second) =
      (line.afterAll command first).afterAll command second := by
  simp [afterAll]

theorem afterAll_cons (operation : WaitOperation) (history : List WaitOperation) :
    line.afterAll command (operation :: history) =
      (line.after command operation).afterAll command history := rfl

/-! ## Places -/

/-- A registration takes the place of the command, and clearing the table empties it. -/
theorem newest_after (line : Line) (operation : WaitOperation) :
    (line.after command operation).newest =
      if operation = .register command then some line.opened
      else if operation = .clear then none
      else line.newest := by
  cases operation <;> simp only [after] <;> split <;> simp_all [register, signal, clear, leave]

theorem opened_after (line : Line) (operation : WaitOperation) :
    (line.after command operation).opened =
      line.opened + if operation = .register command then 1 else 0 := by
  cases operation <;> simp only [after] <;> (try split) <;>
    simp_all [register, signal, clear, leave]

theorem opened_afterAll (command : Command) (history : List WaitOperation) :
    (initial.afterAll command history).opened = history.count (.register command) := by
  induction history using List.reverseRec with
  | nil => rfl
  | append_singleton history operation ih =>
      rw [afterAll_append, List.count_append, ← ih]
      refine (opened_after _ operation).trans ?_
      congr 1
      simp [List.count_singleton, beq_iff_eq]

/-- The place of a command belongs to its last registration since the last clearing. -/
theorem registered_of_newest (h : (initial.afterAll command history).newest = some number) :
    ∃ earlier later, history = earlier ++ .register command :: later ∧
      number = earlier.count (.register command) ∧
      ∀ operation ∈ later, operation ≠ .register command ∧ operation ≠ .clear := by
  induction history using List.reverseRec with
  | nil => cases h
  | append_singleton history operation ih =>
      rw [afterAll_append] at h
      replace h := (newest_after _ operation).symm.trans h
      split at h
      · rename_i hregister
        subst hregister
        cases h
        -- the last operation is the registration, or the one before it stands
        exact ⟨history, [], rfl, opened_afterAll command history, by simp⟩
      · rename_i hregister
        split at h
        · cases h
        · rename_i hclear
          obtain ⟨earlier, later, rfl, hnumber, hlater⟩ := ih h
          refine ⟨earlier, later ++ [operation], by simp, hnumber, ?_⟩
          intro other hother
          rcases List.mem_append.mp hother with hold | hnew
          · exact hlater other hold
          · rw [List.mem_singleton.mp hnew]
            exact ⟨hregister, hclear⟩

theorem newest_isSome_afterAll (h : line.newest.isSome) (hclear : .clear ∉ history) :
    (line.afterAll command history).newest.isSome := by
  induction history generalizing line with
  | nil => exact h
  | cons operation history ih =>
      rw [List.mem_cons, not_or] at hclear
      refine ih ?_ hclear.2
      rw [newest_after, if_neg (Ne.symm hclear.1)]
      split
      · rfl
      · exact h

/-! ## A wait after its registration -/

/-- What a wait holds is changed by signals while it has the place of the command, and by its
holder. -/
theorem held_after (hlt : number < line.opened) (hstay : operation ≠ .leave command number) :
    (line.after command operation).held number =
      if line.newest = some number then
        (line.held number).map fun delivered => delivered.or (operation.outcomeFor? command)
      else line.held number := by
  have hold : number ≠ line.opened := Nat.ne_of_lt hlt
  cases operation with
  | register other => by_cases hother : other = command <;>
      simp [after, register, WaitOperation.outcomeFor?, hother, hold]
  | complete other => by_cases hother : other = command <;>
      simp [after, signal, WaitOperation.outcomeFor?, hother]
  | reject other error => by_cases hother : other = command <;>
      simp [after, signal, WaitOperation.outcomeFor?, hother]
  | clear => simp [after, clear, WaitOperation.outcomeFor?]
  | leave other left =>
      by_cases hother : other = command
      · subst hother
        have hleft : number ≠ left := by
          rintro rfl
          exact hstay rfl
        simp [after, leave, WaitOperation.outcomeFor?, hleft]
      · simp [after, WaitOperation.outcomeFor?, hother]

theorem lt_opened_after (hlt : number < line.opened) :
    number < (line.after command operation).opened := by
  rw [opened_after]
  exact Nat.lt_add_right _ hlt

/-- A wait has the place of the command. -/
structure Current (line : Line) (number : Nat) (delivered : Option WaitOutcome) : Prop where
  lt : number < line.opened
  newest : line.newest = some number
  held : line.held number = some delivered

/-- A wait has lost the place of the command, and is still held. -/
structure Replaced (line : Line) (number : Nat) (delivered : Option WaitOutcome) : Prop where
  lt : number < line.opened
  newest_ne : line.newest ≠ some number
  held : line.held number = some delivered

/-- Nobody holds a wait any more. -/
structure Left (line : Line) (number : Nat) : Prop where
  lt : number < line.opened
  held : line.held number = none

theorem current_register (line : Line) : line.register.Current line.opened none where
  lt := Nat.lt_succ_self _
  newest := rfl
  held := if_pos rfl

/-- In its window a wait gets the first signal. -/
theorem Current.after (h : line.Current number delivered)
    (hopen : operation.closes command number = false) :
    (line.after command operation).Current number
      (delivered.or (operation.outcomeFor? command)) := by
  obtain ⟨hregister, hclear, hstay⟩ : operation ≠ .register command ∧ operation ≠ .clear ∧
      operation ≠ .leave command number := by
    simpa [WaitOperation.closes] using hopen
  refine ⟨lt_opened_after h.lt, ?_, ?_⟩
  · rw [newest_after, if_neg hregister, if_neg hclear, h.newest]
  · rw [held_after h.lt hstay, if_pos h.newest, h.held, Option.map_some]

theorem Current.afterAll (h : line.Current number delivered)
    (hopen : ∀ operation ∈ history, operation.closes command number = false) :
    (line.afterAll command history).Current number
      (delivered.or (firstSignal command history)) := by
  induction history generalizing line delivered with
  | nil =>
      show line.Current number (delivered.or none)
      rwa [Option.or_none]
  | cons operation history ih =>
      rw [List.forall_mem_cons] at hopen
      have hlast := ih (h.after hopen.1) hopen.2
      rwa [Option.or_assoc, ← firstSignal_cons] at hlast

/-- A wait that loses its place keeps what it got. -/
theorem Current.replaced (h : line.Current number delivered)
    (hcloses : operation.closes command number = true)
    (hstay : operation ≠ .leave command number) :
    (line.after command operation).Replaced number delivered := by
  have hcase : operation = .register command ∨ operation = .clear := by
    simpa [WaitOperation.closes, hstay] using hcloses
  have hsignal : operation.outcomeFor? command = none := by
    rcases hcase with rfl | rfl <;> rfl
  refine ⟨lt_opened_after h.lt, ?_, ?_⟩
  · rw [newest_after]
    rcases hcase with rfl | rfl
    · have hne := Nat.ne_of_gt h.lt
      simpa using hne
    · simp
  · rw [held_after h.lt hstay, if_pos h.newest, h.held, hsignal, Option.map_some, Option.or_none]

theorem Replaced.after (h : line.Replaced number delivered)
    (hstay : operation ≠ .leave command number) :
    (line.after command operation).Replaced number delivered := by
  refine ⟨lt_opened_after h.lt, ?_, ?_⟩
  · rw [newest_after]
    split
    · have hne := Nat.ne_of_gt h.lt
      simpa using hne
    · split
      · simp
      · exact h.newest_ne
  · rw [held_after h.lt hstay, if_neg h.newest_ne, h.held]

theorem Replaced.afterAll (h : line.Replaced number delivered)
    (hstay : .leave command number ∉ history) :
    (line.afterAll command history).Replaced number delivered := by
  induction history generalizing line with
  | nil => exact h
  | cons operation history ih =>
      rw [List.mem_cons, not_or] at hstay
      exact ih (h.after (Ne.symm hstay.1)) hstay.2

theorem left_leave (hlt : number < line.opened) :
    (line.after command (.leave command number)).Left number where
  lt := lt_opened_after hlt
  held := by simp [after, leave]

theorem Left.after (h : line.Left number) : (line.after command operation).Left number := by
  by_cases hleave : operation = .leave command number
  · rw [hleave]
    exact left_leave h.lt
  · refine ⟨lt_opened_after h.lt, ?_⟩
    rw [held_after h.lt hleave, h.held, Option.map_none, ite_self]

theorem Left.afterAll (h : line.Left number) : (line.afterAll command history).Left number := by
  induction history generalizing line with
  | nil => exact h
  | cons operation history ih => exact ih h.after

theorem lt_opened_afterAll (hlt : number < line.opened) :
    number < (line.afterAll command history).opened := by
  induction history generalizing line with
  | nil => exact hlt
  | cons operation history ih => exact ih (lt_opened_after hlt)

/-- Who has left does not come back. -/
theorem left_of_mem (hlt : number < line.opened) (hleave : .leave command number ∈ history) :
    (line.afterAll command history).Left number := by
  obtain ⟨before, behind, rfl⟩ := List.append_of_mem hleave
  rw [afterAll_append, afterAll_cons]
  exact (left_leave (lt_opened_afterAll hlt)).afterAll

/-! ## The window of a wait -/

theorem afterAll_registered (command : Command) (earlier later : List WaitOperation) :
    initial.afterAll command (earlier ++ .register command :: later) =
      (initial.afterAll command earlier).register.afterAll command later := by
  rw [afterAll_append, afterAll_cons]
  simp [after]

/-- A wait that nobody gave up is current while its window is open, and replaced after it. -/
theorem current_or_replaced (command : Command) (earlier later : List WaitOperation)
    (hstay : .leave command (earlier.count (.register command)) ∉ later) :
    let number := earlier.count (.register command)
    let window := windowOf command number later
    let line := initial.afterAll command (earlier ++ .register command :: later)
    (window = later ∧ line.Current number (firstSignal command window)) ∨
      (window ≠ later ∧ line.Replaced number (firstSignal command window)) := by
  intro number window line
  have hstart := current_register (initial.afterAll command earlier)
  rw [opened_afterAll command earlier] at hstart
  have hline : line = (initial.afterAll command earlier).register.afterAll command later :=
    afterAll_registered command earlier later
  have hopen : ∀ operation ∈ window, operation.closes command number = false := by
    intro operation hoperation
    simpa using List.mem_takeWhile_imp hoperation
  -- the window is where the wait has the place; what follows begins with what took it away
  have hcurrent := hstart.afterAll hopen
  rw [Option.none_or] at hcurrent
  have hsplit : window ++ later.dropWhile (fun operation => !operation.closes command number) =
      later := List.takeWhile_append_dropWhile
  have hhead := List.head?_dropWhile_not (fun operation => !operation.closes command number) later
  cases hrest : later.dropWhile fun operation => !operation.closes command number with
  | nil =>
      rw [hrest, List.append_nil] at hsplit
      rw [hsplit] at hcurrent
      exact .inl ⟨hsplit, by rw [hline, hsplit]; exact hcurrent⟩
  | cons operation rest =>
      rw [hrest] at hsplit hhead
      have hcloses : operation.closes command number = true := by simpa using hhead
      have hstays : ∀ other ∈ operation :: rest, other ≠ .leave command number := by
        rintro other hother rfl
        exact hstay (by rw [← hsplit]; exact List.mem_append_right window hother)
      have hreplaced := hcurrent.replaced hcloses (hstays operation List.mem_cons_self)
      refine .inr ⟨?_, ?_⟩
      · -- something closed the window, so that it is not all that followed
        intro heq
        rw [heq] at hsplit
        simp at hsplit
      · rw [hline, ← hsplit, afterAll_append, afterAll_cons]
        refine hreplaced.afterAll ?_
        intro hleave
        exact hstays _ (List.mem_cons_of_mem operation hleave) rfl

/-! ## What can be asked about a line -/

/-- The place of a command is taken when it was registered since the last clearing. -/
theorem newest_isSome_iff (command : Command) (history : List WaitOperation) :
    (initial.afterAll command history).newest.isSome = true ↔
      ∃ earlier later, history = earlier ++ .register command :: later ∧ .clear ∉ later := by
  constructor
  · intro h
    obtain ⟨number, hnumber⟩ := Option.isSome_iff_exists.mp h
    obtain ⟨earlier, later, hhistory, -, hlater⟩ := registered_of_newest hnumber
    exact ⟨earlier, later, hhistory, fun hclear => (hlater .clear hclear).2 rfl⟩
  · rintro ⟨earlier, later, rfl, hclear⟩
    rw [afterAll_registered]
    exact newest_isSome_afterAll rfl hclear

/-- Outside of every window nothing is accepted. -/
theorem accepts_eq_false
    (hclosed : ∀ earlier later, history = earlier ++ .register command :: later →
      windowOf command (earlier.count (.register command)) later ≠ later) :
    (initial.afterAll command history).accepts = false := by
  rw [accepts, decide_eq_false_iff_not]
  intro haccepts
  obtain ⟨number, hnewest, hheld⟩ := Option.bind_eq_some_iff.mp haccepts
  obtain ⟨earlier, later, rfl, rfl, hlater⟩ := registered_of_newest hnewest
  -- the newest wait was given up, or its window is still open
  by_cases hleave : .leave command (earlier.count (.register command)) ∈ later
  · have hleft : ((initial.afterAll command earlier).register.afterAll command later).Left
        (initial.afterAll command earlier).opened :=
      left_of_mem (current_register _).lt (by rwa [opened_afterAll])
    rw [← afterAll_registered, opened_afterAll] at hleft
    rw [hleft.held] at hheld
    cases hheld
  · refine hclosed earlier later rfl (List.takeWhile_eq_self_iff.mpr ?_)
    intro operation hoperation
    obtain ⟨hregister, hclear⟩ := hlater operation hoperation
    have hstay : operation ≠ .leave command (earlier.count (.register command)) := by
      rintro rfl
      exact hleave hoperation
    simp [WaitOperation.closes, hregister, hclear, hstay]

theorem Current.accepts_eq (h : line.Current number delivered) :
    line.accepts = delivered.isNone := by
  rw [accepts, h.newest, Option.bind_some, h.held]
  cases delivered <;> rfl

theorem Current.outcome?_eq (h : line.Current number delivered) :
    line.outcome? number = delivered := by
  rw [outcome?, h.held, Option.bind_some, if_pos h.newest, Option.or_none]

theorem Replaced.outcome?_eq (h : line.Replaced number delivered) :
    line.outcome? number = delivered.or (some .superseded) := by
  rw [outcome?, h.held, Option.bind_some, if_neg h.newest_ne]

end Line

namespace WaitingRoom

/-- **What is delivered to a wait.**  Let the waits for a command be numbered by their
registrations, and let the window of a wait be what is done after its registration, up to
the next registration for its command, the next clearing, or the end of its use.

* While the window is open, a signal for the command is delivered exactly when it is the
  first one in the window.
* As long as the wait is held, waiting ends with the first signal of the window, whatever
  came after the window.  Without such a signal it ends as superseded when the window is
  closed, and by nothing but its timer when the window is open.
* When no window is open for the command, a signal is not delivered and changes nothing.
* The table contains the command exactly when it was registered since the last clearing.
* All this is the same when the operations on other commands are struck out. -/
theorem deliveries (command : Command) (history : List WaitOperation) :
    let room := initial.afterAll history
    (∀ earlier later, history = earlier ++ .register command :: later →
      let number := earlier.count (.register command)
      let window := windowOf command number later
      (window = later → ∀ outcome,
        (room.table.signal command outcome).1 = (firstSignal command window).isNone) ∧
      (.leave command number ∉ later →
        room.outcome? command number =
          (firstSignal command window).or (if window = later then none else some .superseded))) ∧
    ((∀ earlier later, history = earlier ++ .register command :: later →
        windowOf command (earlier.count (.register command)) later ≠ later) →
      ∀ outcome, room.table.signal command outcome = (false, room.table)) ∧
    (room.table.contains command = true ↔
      ∃ earlier later, history = earlier ++ .register command :: later ∧ .clear ∉ later) ∧
    let own := initial.afterAll (history.filter (·.concerns command))
    room.table.contains command = own.table.contains command ∧
      (∀ outcome,
        (room.table.signal command outcome).1 = (own.table.signal command outcome).1) ∧
      ∀ number, room.outcome? command number = own.outcome? command number := by
  intro room
  obtain ⟨hsound, hshows⟩ := shows_afterAll command history
  obtain ⟨hsound', hshows'⟩ := shows_afterAll command (history.filter (·.concerns command))
  rw [Line.afterAll_filter] at hshows'
  refine ⟨?_, ?_, ?_, ?_⟩
  · rintro earlier later rfl number window
    refine ⟨?_, ?_⟩
    · intro hopen outcome
      have hstay : .leave command number ∉ later := by
        -- a window is never open behind the end of its wait
        intro hleave
        rw [← hopen] at hleave
        simpa [WaitOperation.closes] using List.mem_takeWhile_imp hleave
      rcases Line.current_or_replaced command earlier later hstay with ⟨-, hcurrent⟩ | ⟨hne, -⟩
      · rw [hshows.signal_fst, hcurrent.accepts_eq]
      · exact absurd hopen hne
    · intro hstay
      rw [hshows.outcome?_eq hsound]
      rcases Line.current_or_replaced command earlier later hstay with
        ⟨hopen, hcurrent⟩ | ⟨hclosed, hreplaced⟩
      · rw [hcurrent.outcome?_eq, if_pos hopen, Option.or_none]
      · rw [hreplaced.outcome?_eq, if_neg hclosed]
  · intro hclosed outcome
    have hcase := hshows.signal_case outcome
    rwa [Line.accepts_eq_false hclosed] at hcase
  · rw [hshows.contains_eq]
    exact Line.newest_isSome_iff command history
  · -- both rooms show the same line
    exact ⟨hshows.contains_eq.trans hshows'.contains_eq.symm,
      fun outcome => (hshows.signal_fst outcome).trans (hshows'.signal_fst outcome).symm,
      fun number => (hshows.outcome?_eq hsound number).trans
        (hshows'.outcome?_eq hsound' number).symm⟩

/-- What came before the replacement stays, what comes after it goes to the successor. -/
example :
    let room := initial.afterAll
      [.register .read, .reject .read ⟨0x11⟩, .register .read, .register .reset, .complete .read]
    room.outcome? .read 0 = some (.rejected ⟨0x11⟩) ∧
      room.outcome? .read 1 = some .completed ∧ room.outcome? .reset 0 = none := by
  decide

end WaitingRoom

end TagInventory
