import Mathlib.Data.List.Nodup
import TagInventory.Proofs.Waiting

/-!
# A wait table is a row of lines

A `WaitingRoom` is a wait table together with everybody who opened a wait, and a history is
a list of operations on it.  The waits for one command form a line: they are numbered in the
order in which they were opened, one of them may have the place of the command, and each
holds what was delivered to it.

A `Line` knows nothing of other commands.  `Shows` says that a room, seen through the look-ups
of its table, looks like a line for a command; every operation keeps this up
(`Shows.after`), and the three things that can be asked about a command are answered by its
line alone (`Shows.contains_eq`, `Shows.signal_case`, `Shows.outcome?_eq`).
-/

namespace TagInventory

/-! ## Histories -/

/-- Something done to a table of waits or to one of the waits.  The waits for a command are
numbered from zero in the order in which they were opened. -/
inductive WaitOperation
  | register (command : Command)
  | complete (command : Command)
  | reject (command : Command) (error : DeviceError)
  | clear
  /-- The holder of a wait is done with it: the wait was dropped, or waiting for it is over. -/
  | leave (command : Command) (number : Nat)
  deriving DecidableEq, Repr

/-- A table of waits with the tickets that were given out. -/
structure WaitingRoom where
  table : WaitTable
  /-- All tickets with their commands, oldest first. -/
  tickets : List (Command × Ticket)

namespace WaitingRoom

def initial : WaitingRoom where
  table := .initial
  tickets := []

/-- The tickets of the waits for a command, by number. -/
def ticketsFor (room : WaitingRoom) (command : Command) : List Ticket :=
  (room.tickets.filter fun entry => entry.1 == command).map Prod.snd

def ticket? (room : WaitingRoom) (command : Command) (number : Nat) : Option Ticket :=
  (room.ticketsFor command)[number]?

/-- The holder of a wait gives it up, if there is one. -/
def leave (room : WaitingRoom) (command : Command) (number : Nat) : WaitingRoom :=
  match room.ticket? command number with
  | some ticket => { room with table := room.table.release ticket }
  | none => room

def after (room : WaitingRoom) : WaitOperation → WaitingRoom
  | .register command =>
    let (ticket, table) := room.table.register command
    ⟨table, room.tickets ++ [(command, ticket)]⟩
  | .complete command => { room with table := (room.table.complete command).2 }
  | .reject command error => { room with table := (room.table.reject command error).2 }
  | .clear => { room with table := room.table.clear }
  | .leave command number => room.leave command number

def afterAll (room : WaitingRoom) (history : List WaitOperation) : WaitingRoom :=
  history.foldl after room

/-- How waiting ends when the timer does not end it; `none` when nothing else does. -/
def outcome? (room : WaitingRoom) (command : Command) (number : Nat) : Option WaitOutcome :=
  (room.ticket? command number).bind room.table.outcome?

end WaitingRoom

namespace WaitOperation

/-- The outcome that an operation signals for a command. -/
def outcomeFor? (command : Command) : WaitOperation → Option WaitOutcome
  | complete other => if other = command then some .completed else none
  | reject other error => if other = command then some (.rejected error) else none
  | _ => none

/-- Whether an operation is about the waits for a command. -/
def concerns (command : Command) : WaitOperation → Bool
  | register other | complete other | reject other _ | leave other _ => other == command
  | clear => true

end WaitOperation

/-! ## Lines -/

/-- The waits for one command, by number. -/
structure Line where
  opened : Nat
  /-- The wait that has the place of the command. -/
  newest : Option Nat
  /-- What was delivered to each wait that somebody holds. -/
  held : Nat → Option (Option WaitOutcome)

namespace Line

def initial : Line where
  opened := 0
  newest := none
  held := fun _ => none

def register (line : Line) : Line where
  opened := line.opened + 1
  newest := some line.opened
  held := fun number => if number = line.opened then some none else line.held number

/-- The wait in the place of the command keeps the first outcome that reaches it. -/
def signal (line : Line) (outcome : WaitOutcome) : Line :=
  { line with
    held := fun number =>
      if line.newest = some number then
        (line.held number).map fun before => before.or (some outcome)
      else line.held number }

def clear (line : Line) : Line :=
  { line with newest := none }

def leave (line : Line) (number : Nat) : Line :=
  { line with held := fun other => if other = number then none else line.held other }

def after (command : Command) (line : Line) : WaitOperation → Line
  | .register other => if other = command then line.register else line
  | .complete other => if other = command then line.signal .completed else line
  | .reject other error => if other = command then line.signal (.rejected error) else line
  | .clear => line.clear
  | .leave other number => if other = command then line.leave number else line

def afterAll (command : Command) (line : Line) (history : List WaitOperation) : Line :=
  history.foldl (after command) line

/-- Whether the wait in the place of the command is held and got nothing yet. -/
def accepts (line : Line) : Bool :=
  line.newest.bind line.held = some none

/-- How waiting ends when the timer does not end it. -/
def outcome? (line : Line) (number : Nat) : Option WaitOutcome :=
  (line.held number).bind fun delivered =>
    delivered.or (if line.newest = some number then none else some .superseded)

/-- Operations on other commands pass a line by. -/
theorem after_of_not_concerns {command : Command} {operation : WaitOperation}
    (h : operation.concerns command = false) (line : Line) :
    line.after command operation = line := by
  cases operation <;> simp_all [after, WaitOperation.concerns]

theorem afterAll_filter (command : Command) (line : Line) (history : List WaitOperation) :
    line.afterAll command (history.filter (·.concerns command)) =
      line.afterAll command history := by
  induction history generalizing line with
  | nil => rfl
  | cons operation history ih =>
      cases hconcerns : operation.concerns command with
      | true =>
          rw [List.filter_cons_of_pos hconcerns]
          exact ih _
      | false =>
          rw [List.filter_cons_of_neg (by simp [hconcerns])]
          refine (ih line).trans ?_
          show _ = (line.after command operation).afterAll command history
          rw [after_of_not_concerns hconcerns]

end Line

namespace WaitingRoom

variable {room : WaitingRoom} {command : Command}

/-! ## Tickets and waits belong together -/

/-- Tickets are given out in order, and the table agrees with them about the commands. -/
structure Sound (room : WaitingRoom) : Prop where
  wellFormed : room.table.WellFormed
  numbered : room.tickets.map Prod.snd = List.range room.table.issued
  command_eq : ∀ command ticket wait, (command, ticket) ∈ room.tickets →
    room.table.wait? ticket = some wait → wait.command = command
  newest_mem : ∀ command ticket, room.table.newest? command = some ticket →
    (command, ticket) ∈ room.tickets

theorem mem_ticketsFor {ticket : Ticket} :
    ticket ∈ room.ticketsFor command ↔ (command, ticket) ∈ room.tickets := by
  simp [ticketsFor]

theorem mem_of_ticket? {number : Nat} {ticket : Ticket}
    (h : room.ticket? command number = some ticket) : (command, ticket) ∈ room.tickets :=
  mem_ticketsFor.mp (List.mem_of_getElem? h)

namespace Sound

theorem lt_issued (h : room.Sound) {ticket : Ticket} (hmem : (command, ticket) ∈ room.tickets) :
    ticket < room.table.issued := by
  have hrange : ticket ∈ room.tickets.map Prod.snd := List.mem_map_of_mem hmem
  rwa [h.numbered, List.mem_range] at hrange

theorem wait?_register (h : room.Sound) {ticket : Ticket} (hmem : (command, ticket) ∈ room.tickets)
    (other : Command) : (room.table.register other).2.wait? ticket = room.table.wait? ticket :=
  WaitTable.wait?_register_of_ne (Nat.ne_of_lt (h.lt_issued hmem))

theorem nodup (h : room.Sound) : (room.tickets.map Prod.snd).Nodup := by
  rw [h.numbered]
  exact List.nodup_range

theorem command_inj (h : room.Sound) {other : Command} {ticket : Ticket}
    (hfirst : (command, ticket) ∈ room.tickets) (hsecond : (other, ticket) ∈ room.tickets) :
    command = other :=
  congrArg Prod.fst (List.inj_on_of_nodup_map h.nodup hfirst hsecond rfl)

theorem number_inj (h : room.Sound) {first second : Nat} {ticket : Ticket}
    (hfirst : room.ticket? command first = some ticket)
    (hsecond : room.ticket? command second = some ticket) : first = second := by
  have hnodup : (room.ticketsFor command).Nodup :=
    h.nodup.sublist (List.filter_sublist.map Prod.snd)
  obtain ⟨hlt, -⟩ := List.getElem?_eq_some_iff.mp hfirst
  exact (List.getElem?_inj hlt hnodup).mp (hfirst.trans hsecond.symm)

end Sound

theorem sound_initial : initial.Sound where
  wellFormed := WaitTable.wellFormed_initial
  numbered := rfl
  command_eq := by simp [initial]
  newest_mem := by simp [initial, WaitTable.initial, WaitTable.newest?]

/-- A new ticket goes to the end of the line of its command. -/
theorem ticketsFor_register (room : WaitingRoom) (command other : Command) :
    (room.after (.register other)).ticketsFor command =
      room.ticketsFor command ++ if other = command then [room.table.issued] else [] := by
  by_cases hother : other = command
  · simp [after, ticketsFor, hother]
  · simp [after, ticketsFor, hother]

/-- The new ticket has the next number, and the others keep theirs. -/
theorem ticket?_register (room : WaitingRoom) (command : Command) (number : Nat) :
    (room.after (.register command)).ticket? command number =
      if number = (room.ticketsFor command).length then some room.table.issued
      else room.ticket? command number := by
  rw [ticket?, ticketsFor_register, if_pos rfl, ticket?]
  split
  · rename_i hnumber
    rw [List.getElem?_append_right (Nat.le_of_eq hnumber.symm), hnumber, Nat.sub_self]
    rfl
  · rename_i hnumber
    rcases Nat.lt_or_gt_of_ne hnumber with hlt | hgt
    · rw [List.getElem?_append_left hlt]
    · rw [List.getElem?_eq_none (by rw [List.length_append]; exact hgt),
        List.getElem?_eq_none (Nat.le_of_lt hgt)]

theorem Sound.register (h : room.Sound) (other : Command) :
    (room.after (.register other)).Sound where
  wellFormed := h.wellFormed.register other
  numbered := by
    show (room.tickets ++ [(other, room.table.issued)]).map Prod.snd = List.range (_ + 1)
    rw [List.map_append, h.numbered, List.range_succ]
    rfl
  command_eq := by
    intro command ticket wait hmem hwait
    -- the other tickets keep their waits, and the new one is for this command
    rcases List.mem_append.mp hmem with hold | hnew
    · exact h.command_eq command ticket wait hold (by rwa [← h.wait?_register hold other])
    · obtain ⟨rfl, rfl⟩ : command = other ∧ ticket = room.table.issued := by simpa using hnew
      cases (h.wellFormed.wait?_register_self command).symm.trans hwait
      rfl
  newest_mem := by
    intro command ticket hnewest
    refine List.mem_append.mpr ?_
    by_cases heq : command = other
    · subst heq
      cases (WaitTable.newest?_register_self room.table command).symm.trans hnewest
      exact .inr (List.mem_singleton_self _)
    · exact .inl (h.newest_mem command ticket
        ((WaitTable.newest?_register_of_ne heq).symm.trans hnewest))

/-- Operations that give out no ticket keep the table and the tickets together when they keep
the places, or empty them, and the commands of the waits. -/
theorem Sound.of_table (h : room.Sound) {table : WaitTable} (hwell : table.WellFormed)
    (hissued : table.issued = room.table.issued)
    (hwait : ∀ ticket wait, table.wait? ticket = some wait →
      ∃ before, room.table.wait? ticket = some before ∧ before.command = wait.command)
    (hnewest : ∀ command ticket, table.newest? command = some ticket →
      room.table.newest? command = some ticket) :
    (⟨table, room.tickets⟩ : WaitingRoom).Sound where
  wellFormed := hwell
  numbered := by rw [hissued, h.numbered]
  command_eq := by
    intro command ticket wait hmem hafter
    obtain ⟨before, hbefore, hcommand⟩ := hwait ticket wait hafter
    rw [← hcommand]
    exact h.command_eq command ticket before hmem hbefore
  newest_mem := by
    intro command ticket hafter
    exact h.newest_mem command ticket (hnewest command ticket hafter)

theorem Sound.signal (h : room.Sound) (other : Command) (outcome : WaitOutcome) :
    (⟨(room.table.signal other outcome).2, room.tickets⟩ : WaitingRoom).Sound := by
  refine h.of_table (h.wellFormed.signal other outcome) (WaitTable.issued_signal other outcome)
    ?_ (fun command ticket hnewest => by rwa [WaitTable.newest?_signal] at hnewest)
  intro ticket wait hwait
  rw [WaitTable.wait?_signal] at hwait
  split at hwait
  · obtain ⟨before, hbefore, rfl⟩ := Option.map_eq_some_iff.mp hwait
    exact ⟨before, hbefore, rfl⟩
  · exact ⟨wait, hwait, rfl⟩

theorem Sound.leave (h : room.Sound) (other : Command) (number : Nat) :
    (room.leave other number).Sound := by
  unfold WaitingRoom.leave
  split
  · rename_i ticket hticket
    refine h.of_table (h.wellFormed.release ticket) rfl ?_ (fun _ _ hnewest => hnewest)
    intro other wait hwait
    rw [WaitTable.wait?_release] at hwait
    split at hwait
    · cases hwait
    · exact ⟨wait, hwait, rfl⟩
  · exact h

theorem Sound.after (h : room.Sound) (operation : WaitOperation) :
    (room.after operation).Sound := by
  cases operation with
  | register other => exact h.register other
  | complete other => exact h.signal other .completed
  | reject other error => exact h.signal other (.rejected error)
  | clear =>
      exact h.of_table h.wellFormed.clear rfl (fun ticket wait hwait => ⟨wait, hwait, rfl⟩)
        (fun command ticket hnewest => by cases hnewest)
  | leave other number => exact h.leave other number

/-! ## A room shows a line for every command -/

/-- What the table says about a command is what the line says. -/
structure Shows (room : WaitingRoom) (command : Command) (line : Line) : Prop where
  opened : (room.ticketsFor command).length = line.opened
  newest : room.table.newest? command = line.newest.bind (room.ticket? command)
  newest_lt : ∀ number, line.newest = some number → number < line.opened
  held : ∀ number, ((room.ticket? command number).bind room.table.wait?).map OpenWait.delivered =
    line.held number

theorem shows_initial (command : Command) : initial.Shows command .initial where
  opened := rfl
  newest := rfl
  newest_lt := by simp [Line.initial]
  held := fun number => rfl

namespace Shows

variable {line : Line}

/-- The place of the command belongs to the newest wait of the line. -/
theorem newest_iff (h : room.Shows command line) (hsound : room.Sound) {number : Nat}
    {ticket : Ticket} (hticket : room.ticket? command number = some ticket) :
    room.table.newest? command = some ticket ↔ line.newest = some number := by
  rw [h.newest]
  constructor
  · intro hplace
    obtain ⟨newest, hnewest, hsame⟩ := Option.bind_eq_some_iff.mp hplace
    rw [hnewest, hsound.number_inj hsame hticket]
  · intro hnewest
    rw [hnewest, Option.bind_some, hticket]

/-- The new wait takes the place of its command, and the others keep what they hold. -/
theorem register_self (h : room.Shows command line) (hsound : room.Sound) :
    (room.after (.register command)).Shows command line.register := by
  refine ⟨?_, ?_, ?_, ?_⟩
  · rw [ticketsFor_register, if_pos rfl, List.length_append, h.opened]
    rfl
  · show (room.table.register command).2.newest? command =
      (room.after (.register command)).ticket? command line.opened
    rw [WaitTable.newest?_register_self, ticket?_register, if_pos h.opened.symm]
  · intro number hnumber
    cases hnumber
    exact Nat.lt_succ_self _
  · intro number
    show ((_ : Option Ticket).bind (room.table.register command).2.wait?).map _ =
      if number = line.opened then some none else line.held number
    -- the new wait has the next number, and nothing was delivered to it
    rw [ticket?_register, h.opened]
    split
    · rw [Option.bind_some, hsound.wellFormed.wait?_register_self]
      rfl
    · rw [← h.held number]
      cases hticket : room.ticket? command number with
      | none => rfl
      | some ticket =>
          rw [Option.bind_some, hsound.wait?_register (mem_of_ticket? hticket)]
          rfl

theorem register_other (h : room.Shows command line) (hsound : room.Sound) {other : Command}
    (hother : other ≠ command) : (room.after (.register other)).Shows command line := by
  have htickets := ticketsFor_register room command other
  rw [if_neg hother, List.append_nil] at htickets
  have hticket (number : Nat) :
      (room.after (.register other)).ticket? command number = room.ticket? command number := by
    rw [ticket?, htickets, ticket?]
  refine ⟨by rw [htickets, h.opened], ?_, h.newest_lt, ?_⟩
  · show (room.table.register other).2.newest? command = _
    rw [WaitTable.newest?_register_of_ne (Ne.symm hother), h.newest, funext hticket]
  · intro number
    rw [hticket, ← h.held number]
    cases hcase : room.ticket? command number with
    | none => rfl
    | some ticket =>
        show ((room.table.register other).2.wait? ticket).map _ = _
        rw [hsound.wait?_register (mem_of_ticket? hcase)]
        rfl

theorem signal_self (h : room.Shows command line) (hsound : room.Sound) (outcome : WaitOutcome) :
    (⟨(room.table.signal command outcome).2, room.tickets⟩ : WaitingRoom).Shows command
      (line.signal outcome) := by
  refine ⟨h.opened, (WaitTable.newest?_signal command command outcome).trans h.newest, h.newest_lt,
    ?_⟩
  intro number
  show ((room.ticket? command number).bind (room.table.signal command outcome).2.wait?).map _ =
    if line.newest = some number then _ else _
  rw [← h.held number]
  cases hticket : room.ticket? command number with
  | none => simp
  | some ticket =>
      rw [Option.bind_some, WaitTable.wait?_signal, Option.bind_some]
      by_cases hplace : room.table.newest? command = some ticket
      · rw [if_pos hplace, if_pos ((h.newest_iff hsound hticket).mp hplace), Option.map_map,
          Option.map_map]
        rfl
      · rw [if_neg hplace, if_neg (mt (h.newest_iff hsound hticket).mpr hplace)]

/-- A line is the same after what leaves the place of its command and its waits alone. -/
theorem of_unchanged (h : room.Shows command line) {table : WaitTable}
    (hnewest : table.newest? command = room.table.newest? command)
    (hwait : ∀ ticket, (command, ticket) ∈ room.tickets →
      table.wait? ticket = room.table.wait? ticket) :
    (⟨table, room.tickets⟩ : WaitingRoom).Shows command line := by
  refine ⟨h.opened, hnewest.trans h.newest, h.newest_lt, ?_⟩
  intro number
  rw [← h.held number]
  show ((room.ticket? command number).bind table.wait?).map _ = _
  cases hticket : room.ticket? command number with
  | none => rfl
  | some ticket =>
      rw [Option.bind_some, hwait ticket (mem_of_ticket? hticket)]
      rfl

/-- A signal reaches no wait for another command. -/
theorem signal_other (h : room.Shows command line) (hsound : room.Sound) {other : Command}
    (hother : other ≠ command) (outcome : WaitOutcome) :
    (⟨(room.table.signal other outcome).2, room.tickets⟩ : WaitingRoom).Shows command line := by
  refine h.of_unchanged (WaitTable.newest?_signal other command outcome) ?_
  intro ticket hticket
  have hplace : room.table.newest? other ≠ some ticket := by
    intro hplace
    exact hother (hsound.command_inj (hsound.newest_mem other ticket hplace) hticket)
  rw [WaitTable.wait?_signal, if_neg hplace]

theorem clear (h : room.Shows command line) :
    (⟨room.table.clear, room.tickets⟩ : WaitingRoom).Shows command line.clear where
  opened := h.opened
  newest := rfl
  newest_lt := by simp [Line.clear]
  held := h.held

theorem leave_self (h : room.Shows command line) (hsound : room.Sound) (number : Nat) :
    (room.leave command number).Shows command (line.leave number) := by
  unfold WaitingRoom.leave
  split
  · rename_i ticket hticket
    refine ⟨h.opened, h.newest, h.newest_lt, ?_⟩
    intro other
    show ((room.ticket? command other).bind (room.table.release ticket).wait?).map _ =
      if other = number then none else line.held other
    rw [← h.held other]
    by_cases hother : other = number
    · rw [if_pos hother, hother, hticket, Option.bind_some, WaitTable.wait?_release, if_pos rfl]
      rfl
    · rw [if_neg hother]
      cases hheld : room.ticket? command other with
      | none => rfl
      | some held =>
          -- two numbers of the line stand for two tickets
          have hne : held ≠ ticket := by
            rintro rfl
            exact hother (hsound.number_inj hheld hticket)
          rw [Option.bind_some, WaitTable.wait?_release, if_neg hne]
          rfl
  · -- nobody holds a wait with this number, so that there is none to give up
    rename_i hticket
    refine ⟨h.opened, h.newest, h.newest_lt, ?_⟩
    intro other
    show _ = if other = number then none else line.held other
    rw [← h.held other]
    split
    · rename_i hother
      rw [hother, hticket]
      rfl
    · rfl

theorem leave_other (h : room.Shows command line) (hsound : room.Sound) {other : Command}
    (hother : other ≠ command) (number : Nat) : (room.leave other number).Shows command line := by
  unfold WaitingRoom.leave
  split
  · rename_i ticket hticket
    refine h.of_unchanged rfl ?_
    intro held hheld
    have hne : held ≠ ticket := by
      rintro rfl
      exact hother (hsound.command_inj (mem_of_ticket? hticket) hheld)
    rw [WaitTable.wait?_release, if_neg hne]
  · exact h

/-- Every operation does to the table what it does to the line. -/
theorem after (h : room.Shows command line) (hsound : room.Sound) (operation : WaitOperation) :
    (room.after operation).Shows command (line.after command operation) := by
  cases operation with
  | register other =>
      show Shows _ command (if other = command then line.register else line)
      split
      · rename_i hother
        subst hother
        exact h.register_self hsound
      · rename_i hother
        exact h.register_other hsound hother
  | complete other =>
      show Shows _ command (if other = command then line.signal .completed else line)
      split
      · rename_i hother
        subst hother
        exact h.signal_self hsound .completed
      · rename_i hother
        exact h.signal_other hsound hother .completed
  | reject other error =>
      show Shows _ command (if other = command then line.signal (.rejected error) else line)
      split
      · rename_i hother
        subst hother
        exact h.signal_self hsound (.rejected error)
      · rename_i hother
        exact h.signal_other hsound hother (.rejected error)
  | clear => exact h.clear
  | leave other number =>
      show Shows _ command (if other = command then line.leave number else line)
      split
      · rename_i hother
        subst hother
        exact h.leave_self hsound number
      · rename_i hother
        exact h.leave_other hsound hother number

theorem afterAll (h : room.Shows command line) (hsound : room.Sound)
    (history : List WaitOperation) :
    (room.afterAll history).Sound ∧
      (room.afterAll history).Shows command (line.afterAll command history) := by
  induction history generalizing room line with
  | nil => exact ⟨hsound, h⟩
  | cons operation history ih => exact ih (h.after hsound operation) (hsound.after operation)

/-! ## What a line answers -/

theorem contains_eq (h : room.Shows command line) :
    room.table.contains command = line.newest.isSome := by
  rw [WaitTable.contains, h.newest]
  cases hnewest : line.newest with
  | none => rfl
  | some number =>
      have hlt : number < (room.ticketsFor command).length := by
        rw [h.opened]
        exact h.newest_lt number hnewest
      rw [Option.bind_some, ticket?, List.getElem?_eq_getElem hlt]
      rfl

/-- A signal is delivered when the line accepts one, and changes nothing otherwise. -/
theorem signal_case (h : room.Shows command line) (outcome : WaitOutcome) :
    if line.accepts then (room.table.signal command outcome).1 = true
    else room.table.signal command outcome = (false, room.table) := by
  have hheld : line.newest.bind line.held =
      ((room.table.newest? command).bind room.table.wait?).map OpenWait.delivered := by
    rw [h.newest]
    cases hnewest : line.newest with
    | none => rfl
    | some number => exact (h.held number).symm
  rw [Line.accepts, hheld, WaitTable.signal, WaitTable.target?]
  cases hwait : (room.table.newest? command).bind room.table.wait? with
  | none => rfl
  | some wait =>
      rw [Option.map_some, Option.filter_some]
      cases hdelivered : wait.delivered with
      | none => rfl
      | some delivered => rfl

theorem signal_fst (h : room.Shows command line) (outcome : WaitOutcome) :
    (room.table.signal command outcome).1 = line.accepts := by
  have hcase := h.signal_case outcome
  split at hcase
  · rename_i haccepts
    rw [hcase, haccepts]
  · rename_i haccepts
    rw [hcase, Bool.eq_false_iff.mpr haccepts]

theorem outcome?_eq (h : room.Shows command line) (hsound : room.Sound) (number : Nat) :
    room.outcome? command number = line.outcome? number := by
  rw [WaitingRoom.outcome?, Line.outcome?, ← h.held number]
  cases hticket : room.ticket? command number with
  | none => rfl
  | some ticket =>
      rw [Option.bind_some, Option.bind_some, WaitTable.outcome?]
      cases hwait : room.table.wait? ticket with
      | none => rfl
      | some wait =>
          have hcommand := hsound.command_eq command ticket wait (mem_of_ticket? hticket) hwait
          simp only [Option.map_some, Option.bind_some, hcommand, h.newest_iff hsound hticket]
          cases wait.delivered with
          | none => rfl
          | some outcome => rfl

end Shows

/-- After every history a new room shows the line of every command. -/
theorem shows_afterAll (command : Command) (history : List WaitOperation) :
    (initial.afterAll history).Sound ∧
      (initial.afterAll history).Shows command (Line.initial.afterAll command history) :=
  (shows_initial command).afterAll sound_initial history

end WaitingRoom

end TagInventory
