import TagInventory.Proofs.Engine.Receiving
import TagInventory.Proofs.Engine.Threads

/-!
# The invariant of an engine

`System.Sound` collects what holds in every reachable system about waits and bytes: the
table is well formed, every ticket was issued and belongs to one thread, and between two
bytes the receiver has fetched everything and waits for more.

Each part is kept by every action: a step of a thread changes the table as `WaitStep`
says (`Sound.step_task`), and a byte only signals (`Sound.receive`).
-/

namespace TagInventory

namespace Core

variable {core : Core}

@[simp] theorem issued_waitsAfter (core : Core) (reply : Reply) :
    (core.waitsAfter reply).issued = core.waits.issued := by
  unfold waitsAfter
  split <;> simp

theorem wellFormed_waitsAfter (h : core.waits.WellFormed) (reply : Reply) :
    (core.waitsAfter reply).WellFormed := by
  unfold waitsAfter
  split
  · exact (h.signal _ _).signal _ _
  · exact h.signal _ _

/-- What a reply delivers to the wait for a command. -/
def delivers (core : Core) (reply : Reply) (command : Command) : Option WaitOutcome :=
  if command = .allTagsReceived then
    if core.endsBufferRead reply then some .completed else none
  else if reply.command = command then some reply.outcome else none

/-- A reply ends the wait for its command, and the wait for all tags when it ends the
buffer read. -/
theorem awaits_waitsAfter (hwell : core.waits.WellFormed) {ticket : Ticket} {command : Command}
    {outcome : Option WaitOutcome} (h : core.waits.Awaits ticket command outcome) {reply : Reply}
    (hwire : reply.command.onWire = true) :
    (core.waitsAfter reply).Awaits ticket command (outcome.or (core.delivers reply command)) := by
  -- no reply is to the command that is never sent
  have hnever : reply.command ≠ .allTagsReceived := by
    intro heq
    rw [heq] at hwire
    cases hwire
  unfold waitsAfter delivers
  split
  · -- when the reply ends the buffer read, the wait for all tags is signalled first
    have hall := h.signal hwell .allTagsReceived .completed
    have hboth := hall.signal (hwell.signal _ _) reply.command reply.outcome
    by_cases hcommand : command = .allTagsReceived
    · subst hcommand
      simpa [hnever] using hboth
    · simpa [hcommand, Ne.symm hcommand] using hboth
  · have hone := h.signal hwell reply.command reply.outcome
    by_cases hcommand : command = .allTagsReceived
    · subst hcommand
      simpa [hnever] using hone
    · simpa [hcommand] using hone

/-- The buffer after a byte is the receiver's, whatever the byte completes. -/
theorem buffer_receive (hdrained : core.session.Drained) (byte : UInt8) :
    (core.receive byte).receiver.buffer = (core.receiver.push byte).buffer := by
  cases hreply : core.receiver.replyTo? byte with
  | none => rw [receive_of_none hreply]
  | some reply => rw [receive_of_reply hdrained hreply]

theorem drained_receive (hdrained : core.session.Drained) (byte : UInt8) :
    (core.receive byte).session.Drained := by
  cases hreply : core.receiver.replyTo? byte with
  | none =>
      rw [receive_of_none hreply]
      show (core.receiver.push byte).session.Drained
      rw [Receiver.session_push_of_none hreply]
      exact hdrained
  | some reply =>
      rw [receive_of_reply hdrained hreply]
      exact Session.drained_drain _

theorem waits_receive (hdrained : core.session.Drained) (byte : UInt8) :
    (core.receive byte).waits =
      match core.receiver.replyTo? byte with
      | some reply => core.waitsAfter reply
      | none => core.waits := by
  cases hreply : core.receiver.replyTo? byte with
  | none => rw [receive_of_none hreply]
  | some reply => rw [receive_of_reply hdrained hreply]

end Core

namespace WaitStep

variable {opened : Option Command} {cleared : Bool} {table table' : WaitTable}
  {held held' : Option Ticket}

theorem wellFormed (h : WaitStep opened cleared (table, held) (table', held'))
    (htable : table.WellFormed) : table'.WellFormed := by
  cases h with
  | idle => exact htable
  | «open» => exact htable.register _
  | release => exact htable.release _
  | clear => exact htable.clear

theorem issued_le (h : WaitStep opened cleared (table, held) (table', held')) :
    table.issued ≤ table'.issued := by
  cases h with
  | «open» => exact Nat.le_succ _
  | _ => exact Nat.le_refl _

/-- A ticket that a step leaves in hand was there before, or is new. -/
theorem held_case (h : WaitStep opened cleared (table, held) (table', held')) {ticket : Ticket}
    (hheld : held' = some ticket) :
    held = some ticket ∨ (ticket = table.issued ∧ table'.issued = table.issued + 1) := by
  cases h with
  | idle => exact .inl hheld
  | «open» =>
      cases hheld
      exact .inr ⟨rfl, rfl⟩
  | release | clear => cases hheld

end WaitStep

namespace System

variable {system next : System} {events : List Event}

/-- What holds in every reachable system about waits and bytes. -/
structure Sound (system : System) : Prop where
  waits : system.core.waits.WellFormed
  ticket_lt : ∀ task ticket, system.ticketOf task = some ticket →
    ticket < system.core.waits.issued
  ticket_inj : ∀ task other ticket, system.ticketOf task = some ticket →
    system.ticketOf other = some ticket → task = other
  drained : system.core.session.Drained
  waiting : Waiting system.core.receiver.buffer

theorem sound_initial (config : EngineConfig) (connected : Bool) :
    (initial config connected).Sound where
  waits := WaitTable.wellFormed_initial
  ticket_lt := by
    intro task ticket h
    cases task <;> cases h
  ticket_inj := by
    intro task other ticket h
    cases task <;> cases h
  drained := Session.drained_initial
  waiting := waiting_of_short (Nat.zero_lt_succ _)

/-- The receiver after a step of a thread: the buffer is the same, and nothing is left to
be fetched. -/
theorem TaskStep.buffer_eq {task : Task} (h : TaskStep system task next) :
    next.core.receiver.buffer = system.core.receiver.buffer := by
  rcases h.receiver with heq | heq <;> rw [heq]

theorem TaskStep.drained {task : Task} (h : TaskStep system task next)
    (hdrained : system.core.session.Drained) : next.core.session.Drained := by
  rw [Core.session] at hdrained ⊢
  rcases h.receiver with heq | heq <;> rw [heq]
  · exact hdrained
  · exact ⟨hdrained.lastError_eq, hdrained.tagReads_eq⟩

theorem Sound.step_task (h : system.Sound) {task : Task} (hstep : TaskStep system task next) :
    next.Sound where
  waits := hstep.waits.wellFormed h.waits
  ticket_lt := by
    intro other ticket hticket
    have hle := hstep.waits.issued_le
    by_cases hother : other = task
    · subst hother
      rcases hstep.waits.held_case hticket with hold | ⟨hnew, hissued⟩
      · exact Nat.lt_of_lt_of_le (h.ticket_lt other ticket hold) hle
      · rw [hnew, hissued]
        exact Nat.lt_succ_self _
    · rw [hstep.others other hother] at hticket
      exact Nat.lt_of_lt_of_le (h.ticket_lt other ticket hticket) hle
  ticket_inj := by
    -- a ticket that a thread holds afterwards is old and was its own, or is new
    have hback (other : Task) (ticket : Ticket) (hticket : next.ticketOf other = some ticket) :
        system.ticketOf other = some ticket ∨
          (other = task ∧ ticket = system.core.waits.issued) := by
      by_cases hother : other = task
      · subst hother
        rcases hstep.waits.held_case hticket with hold | ⟨hnew, -⟩
        · exact .inl hold
        · exact .inr ⟨rfl, hnew⟩
      · exact .inl (by rw [← hstep.others other hother, hticket])
    intro first second ticket hfirst hsecond
    rcases hback first ticket hfirst with hfirst | ⟨rfl, hnew⟩ <;>
      rcases hback second ticket hsecond with hsecond | ⟨rfl, hnew'⟩
    · exact h.ticket_inj first second ticket hfirst hsecond
    · exact absurd hnew' (Nat.ne_of_lt (h.ticket_lt first ticket hfirst))
    · exact absurd hnew (Nat.ne_of_lt (h.ticket_lt second ticket hsecond))
    · rfl
  drained := hstep.drained h.drained
  waiting := by
    rw [hstep.buffer_eq]
    exact h.waiting

theorem Sound.receive (h : system.Sound) (byte : UInt8) :
    (system.setCore (system.core.receive byte)).Sound where
  waits := by
    show (system.core.receive byte).waits.WellFormed
    rw [Core.waits_receive h.drained]
    split
    · exact Core.wellFormed_waitsAfter h.waits _
    · exact h.waits
  ticket_lt := by
    intro task ticket hticket
    have hlt := h.ticket_lt task ticket hticket
    show ticket < (system.core.receive byte).waits.issued
    rw [Core.waits_receive h.drained]
    split
    · rw [Core.issued_waitsAfter]
      exact hlt
    · exact hlt
  ticket_inj := h.ticket_inj
  drained := Core.drained_receive h.drained byte
  waiting := by
    show Waiting (system.core.receive byte).receiver.buffer
    rw [Core.buffer_receive h.drained]
    exact Receiver.waiting_push h.waiting byte

theorem Sound.step_quiet (h : system.Sound) {action : Action} (hquiet : action.isQuiet = true)
    (hstep : system.step action = some (next, events)) : next.Sound := by
  obtain ⟨hwaits, hreceiver, htickets⟩ := step_of_quiet hquiet hstep
  have hsession : next.core.session = system.core.session := by
    rw [Core.session, hreceiver, Core.session]
  constructor
  · rw [hwaits]
    exact h.waits
  · intro task ticket hticket
    rw [htickets] at hticket
    rw [hwaits]
    exact h.ticket_lt task ticket hticket
  · intro task other ticket hticket hother
    rw [htickets] at hticket hother
    exact h.ticket_inj task other ticket hticket hother
  · rw [hsession]
    exact h.drained
  · rw [hreceiver]
    exact h.waiting

theorem Sound.step (h : system.Sound) {action : Action}
    (hstep : system.step action = some (next, events)) : next.Sound := by
  cases action with
  | step task choice => exact h.step_task (System.step_task hstep)
  | receive byte =>
      rw [step_receive hstep]
      exact h.receive byte
  | begin | enqueue | readFails | readerLeaves | tune => exact h.step_quiet rfl hstep

theorem Reachable.sound {config : EngineConfig} {connected : Bool}
    (h : Reachable config connected system) : system.Sound :=
  h.invariant (sound_initial config connected) fun hsound hstep => hsound.step hstep

end System

end TagInventory
