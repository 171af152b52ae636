import TagInventory.WaitTable

/-!
# What the operations of a wait table do

A wait table is seen through two views: `newest?`, the ticket in the place of a command,
and `wait?`, the wait of a ticket.  For every operation this file says what it does to
either view; nothing later looks into the lists.

A signal reaches the wait in the place of its command and no other, and a wait keeps the
first outcome that reaches it (`wait?_signal`).  `WellFormed` is the invariant of the
tables that these operations lead to: tickets are numbered in order, and the place of a
command holds a wait for that command.  `Awaits` follows one wait through them.
-/

namespace TagInventory

/-- A wait keeps the first outcome that reaches it. -/
def OpenWait.deliver (wait : OpenWait) (outcome : WaitOutcome) : OpenWait :=
  { wait with delivered := wait.delivered.or (some outcome) }

theorem lookup_filter_of_ne {α β : Type} [DecidableEq α] {key other : α} (h : other ≠ key)
    (entries : List (α × β)) :
    (entries.filter fun entry => entry.1 != key).lookup other = entries.lookup other := by
  induction entries with
  | nil => rfl
  | cons entry entries ih =>
      obtain ⟨first, value⟩ := entry
      by_cases hfirst : first = key
      · subst hfirst
        have hbeq : (other == first) = false := by simpa using h
        simpa [List.lookup_cons, hbeq] using ih
      · have hkept : (first != key) = true := by simpa using hfirst
        simp only [List.filter_cons, hkept, if_true, List.lookup_cons, ih]

namespace WaitTable

variable {table : WaitTable}

theorem ticket_of_wait? {ticket : Ticket} {wait : OpenWait} (h : table.wait? ticket = some wait) :
    wait.ticket = ticket := by
  simpa using List.find?_some h

/-! ## Opening a wait -/

@[simp] theorem issued_register (command : Command) :
    (table.register command).2.issued = table.issued + 1 := rfl

theorem newest?_register_of_ne {command other : Command} (h : other ≠ command) :
    (table.register command).2.newest? other = table.newest? other := by
  have hbeq : (other == command) = false := by simpa using h
  simp only [register, newest?, List.lookup_cons, hbeq]
  exact lookup_filter_of_ne h table.entries

theorem wait?_register_of_ne {command : Command} {ticket : Ticket} (h : ticket ≠ table.issued) :
    (table.register command).2.wait? ticket = table.wait? ticket := by
  have hnew : (table.issued == ticket) = false := by simpa using Ne.symm h
  simp [register, wait?, List.find?_append, hnew]

/-! ## Signals -/

@[simp] theorem issued_signal (command : Command) (outcome : WaitOutcome) :
    (table.signal command outcome).2.issued = table.issued := by
  unfold signal
  split <;> rfl

@[simp] theorem newest?_signal (command other : Command) (outcome : WaitOutcome) :
    (table.signal command outcome).2.newest? other = table.newest? other := by
  unfold signal
  split <;> rfl

/-- The wait of a ticket after the waits were changed one by one. -/
private theorem find?_map_wait {change : OpenWait → OpenWait}
    (hkeeps : ∀ wait, (change wait).ticket = wait.ticket) (waits : List OpenWait)
    (ticket : Ticket) :
    (waits.map change).find? (fun wait => wait.ticket == ticket) =
      (waits.find? fun wait => wait.ticket == ticket).map change := by
  rw [List.find?_map]
  congr 2
  funext wait
  simp [hkeeps]

/-- A signal reaches the wait in the place of its command and no other. -/
theorem wait?_signal (command : Command) (outcome : WaitOutcome) (ticket : Ticket) :
    (table.signal command outcome).2.wait? ticket =
      if table.newest? command = some ticket then
        (table.wait? ticket).map fun wait => wait.deliver outcome
      else table.wait? ticket := by
  cases hnewest : table.newest? command with
  -- nobody has the place of the command
  | none =>
      have htarget : table.target? command = none := by simp [target?, hnewest]
      simp [signal, htarget]
  | some place =>
      cases hwait : table.wait? place with
      | none =>
          have htarget : table.target? command = none := by simp [target?, hnewest, hwait]
          by_cases hplace : place = ticket
          · subst hplace
            simp [signal, htarget, hwait]
          · simp [signal, htarget, hplace]
      | some wait =>
          have hticket := ticket_of_wait? hwait
          cases hdelivered : wait.delivered with
          -- the first signal stays, and another one gets lost
          | some old =>
              have htarget : table.target? command = none := by
                simp [target?, hnewest, hwait, hdelivered]
              by_cases hplace : place = ticket
              · subst hplace
                have hkept : wait.deliver outcome = wait := by
                  cases wait
                  simp_all [OpenWait.deliver]
                simp [signal, htarget, hwait, hkept]
              · simp [signal, htarget, hplace]
          | none =>
              have htarget : table.target? command = some wait := by
                simp [target?, hnewest, hwait, hdelivered]
              -- the signal is delivered, to the wait in the place and to no other
              simp only [signal, htarget, Option.some.injEq]
              rw [wait?, find?_map_wait (by intro other; split <;> rfl), ← wait?]
              by_cases hplace : place = ticket
              · subst hplace
                simp [hwait, hticket, OpenWait.deliver, hdelivered]
              · rw [if_neg hplace]
                cases hother : table.wait? ticket with
                | none => rfl
                | some other =>
                    have hne : other.ticket ≠ wait.ticket := by
                      rw [ticket_of_wait? hother, hticket]
                      exact Ne.symm hplace
                    simp [hne]

/-! ## Giving up, clearing -/

@[simp] theorem issued_release (ticket : Ticket) :
    (table.release ticket).issued = table.issued := rfl

@[simp] theorem newest?_release (ticket : Ticket) (command : Command) :
    (table.release ticket).newest? command = table.newest? command := rfl

theorem wait?_release (ticket other : Ticket) :
    (table.release ticket).wait? other = if other = ticket then none else table.wait? other := by
  simp only [release, wait?, List.find?_filter]
  by_cases h : other = ticket
  · subst h
    simp
  · rw [if_neg h]
    congr 1
    funext wait
    by_cases hwait : wait.ticket = other
    · simp [hwait, h]
    · simp [hwait]

@[simp] theorem newest?_clear (command : Command) : table.clear.newest? command = none := rfl

@[simp] theorem wait?_clear (ticket : Ticket) : table.clear.wait? ticket = table.wait? ticket := rfl

/-! ## The invariant -/

/-- Tickets are numbered in order, and the place of a command holds a wait for it. -/
structure WellFormed (table : WaitTable) : Prop where
  newest_lt : ∀ command ticket, table.newest? command = some ticket → ticket < table.issued
  wait_lt : ∀ ticket wait, table.wait? ticket = some wait → ticket < table.issued
  command_eq : ∀ command ticket wait, table.newest? command = some ticket →
    table.wait? ticket = some wait → wait.command = command

theorem wellFormed_initial : initial.WellFormed where
  newest_lt := by simp [initial, newest?]
  wait_lt := by simp [initial, wait?]
  command_eq := by simp [initial, newest?]

/-- A new wait is found under its ticket. -/
theorem WellFormed.wait?_register_self (h : table.WellFormed) (command : Command) :
    (table.register command).2.wait? table.issued = some ⟨table.issued, command, none⟩ := by
  have hnone : table.wait? table.issued = none := by
    cases hwait : table.wait? table.issued with
    | none => rfl
    | some wait => exact absurd (h.wait_lt _ _ hwait) (Nat.lt_irrefl _)
  rw [wait?] at hnone
  simp [register, wait?, List.find?_append, hnone]

theorem WellFormed.register (h : table.WellFormed) (command : Command) :
    (table.register command).2.WellFormed where
  newest_lt := by
    intro other ticket hnewest
    rw [issued_register]
    by_cases heq : other = command
    · subst heq
      rw [newest?_register_self] at hnewest
      cases hnewest
      exact Nat.lt_succ_self _
    · rw [newest?_register_of_ne heq] at hnewest
      exact Nat.lt_succ_of_lt (h.newest_lt other ticket hnewest)
  wait_lt := by
    intro ticket wait hwait
    rw [issued_register]
    by_cases heq : ticket = table.issued
    · subst heq
      exact Nat.lt_succ_self _
    · rw [wait?_register_of_ne heq] at hwait
      exact Nat.lt_succ_of_lt (h.wait_lt ticket wait hwait)
  command_eq := by
    intro other ticket wait hnewest hwait
    by_cases heq : other = command
    · subst heq
      rw [newest?_register_self] at hnewest
      cases hnewest
      rw [h.wait?_register_self] at hwait
      cases hwait
      rfl
    · rw [newest?_register_of_ne heq] at hnewest
      -- the place of another command was not given to the new wait
      have hold : ticket ≠ table.issued := Nat.ne_of_lt (h.newest_lt other ticket hnewest)
      rw [wait?_register_of_ne hold] at hwait
      exact h.command_eq other ticket wait hnewest hwait

theorem WellFormed.signal (h : table.WellFormed) (command : Command) (outcome : WaitOutcome) :
    (table.signal command outcome).2.WellFormed := by
  -- a signal changes no ticket and no command of a wait
  have hback (ticket : Ticket) (wait : OpenWait)
      (hwait : (table.signal command outcome).2.wait? ticket = some wait) :
      ∃ before, table.wait? ticket = some before ∧ before.command = wait.command := by
    rw [wait?_signal] at hwait
    split at hwait
    · obtain ⟨before, hbefore, rfl⟩ := Option.map_eq_some_iff.mp hwait
      exact ⟨before, hbefore, rfl⟩
    · exact ⟨wait, hwait, rfl⟩
  constructor
  · intro other ticket hnewest
    rw [newest?_signal] at hnewest
    rw [issued_signal]
    exact h.newest_lt other ticket hnewest
  · intro ticket wait hwait
    obtain ⟨before, hbefore, -⟩ := hback ticket wait hwait
    rw [issued_signal]
    exact h.wait_lt ticket before hbefore
  · intro other ticket wait hnewest hwait
    rw [newest?_signal] at hnewest
    obtain ⟨before, hbefore, hcommand⟩ := hback ticket wait hwait
    rw [← hcommand]
    exact h.command_eq other ticket before hnewest hbefore

theorem WellFormed.release (h : table.WellFormed) (ticket : Ticket) :
    (table.release ticket).WellFormed := by
  have hback (other : Ticket) (wait : OpenWait)
      (hwait : (table.release ticket).wait? other = some wait) : table.wait? other = some wait := by
    rw [wait?_release] at hwait
    split at hwait
    · cases hwait
    · exact hwait
  exact ⟨h.newest_lt, fun other wait hwait => h.wait_lt other wait (hback other wait hwait),
    fun command other wait hnewest hwait =>
      h.command_eq command other wait hnewest (hback other wait hwait)⟩

theorem WellFormed.clear (h : table.WellFormed) : table.clear.WellFormed where
  newest_lt := by simp
  wait_lt := h.wait_lt
  command_eq := by simp

/-! ## One wait -/

/-- A wait has the place of its command, and got an outcome or not. -/
structure Awaits (table : WaitTable) (ticket : Ticket) (command : Command)
    (outcome : Option WaitOutcome) : Prop where
  newest : table.newest? command = some ticket
  wait : table.wait? ticket = some ⟨ticket, command, outcome⟩

theorem WellFormed.awaits_register (h : table.WellFormed) (command : Command) :
    (table.register command).2.Awaits table.issued command none :=
  ⟨newest?_register_self table command, h.wait?_register_self command⟩

namespace Awaits

variable {ticket : Ticket} {command : Command} {outcome : Option WaitOutcome}

theorem outcome?_eq (h : table.Awaits ticket command outcome) :
    table.outcome? ticket = outcome := by
  rw [outcome?, h.wait]
  cases outcome with
  | some outcome => rfl
  | none => simp [h.newest]

/-- Only signals for its command reach the wait. -/
theorem signal (h : table.Awaits ticket command outcome) (hwell : table.WellFormed)
    (other : Command) (signalled : WaitOutcome) :
    (table.signal other signalled).2.Awaits ticket command
      (outcome.or (if other = command then some signalled else none)) := by
  refine ⟨by rw [newest?_signal, h.newest], ?_⟩
  rw [wait?_signal, h.wait]
  by_cases heq : other = command
  · subst heq
    rw [if_pos h.newest, if_pos rfl]
    rfl
  · have hplace : table.newest? other ≠ some ticket := by
      intro hplace
      exact heq (hwell.command_eq other ticket _ hplace h.wait).symm
    rw [if_neg hplace, if_neg heq, Option.or_none]

/-- A new wait for another command leaves the wait alone. -/
theorem register (h : table.Awaits ticket command outcome) (hwell : table.WellFormed)
    {other : Command} (hother : other ≠ command) :
    (table.register other).2.Awaits ticket command outcome := by
  have hold : ticket ≠ table.issued := Nat.ne_of_lt (hwell.wait_lt ticket _ h.wait)
  refine ⟨?_, ?_⟩
  · rw [newest?_register_of_ne (Ne.symm hother), h.newest]
  · rw [wait?_register_of_ne hold, h.wait]

theorem release (h : table.Awaits ticket command outcome) {other : Ticket}
    (hother : other ≠ ticket) : (table.release other).Awaits ticket command outcome := by
  refine ⟨h.newest, ?_⟩
  rw [wait?_release, if_neg (Ne.symm hother), h.wait]

end Awaits

end WaitTable

end TagInventory
