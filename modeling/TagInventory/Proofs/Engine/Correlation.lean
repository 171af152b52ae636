import TagInventory.Proofs.Dispatch
import TagInventory.Proofs.Engine.Invariant

/-!
# Requests get the answers that belong to them

A caller opens a wait, writes its request and waits.  Meanwhile the reader sends whatever
it likes.  The main statement is that the wait ends with what the first valid frame of the
command says, and with the timer when there is no such frame.

## Strategy

`Pending` says what is known while the thread holds its ticket: the ticket has the place
of the command, and its wait carries the outcome so far.  A byte moves that outcome from
`firstAnswer` of the frames so far to `firstAnswer` of one frame more (`Pending.receive`);
nothing else touches it as long as no other thread opens a wait for the command
(`Pending.step_other`).  A thread that gives its ticket up never gets it back
(`Abandoned.step`), so that a thread which still waits has been waiting all the time.
-/

namespace TagInventory

/-! ## The frame that decides -/

/-- The outcome of the first frame with an opcode, if there is one. -/
def firstAnswer (code : UInt8) (frames : List Frame) : Option WaitOutcome :=
  (frames.find? fun frame => frame.command == code).bind fun frame =>
    (Reply.ofFrame? frame).map Reply.outcome

@[simp] theorem firstAnswer_nil (code : UInt8) : firstAnswer code [] = none := rfl

theorem firstAnswer_cons_of_ne {code : UInt8} {frame : Frame} (h : frame.command ≠ code)
    (frames : List Frame) : firstAnswer code (frame :: frames) = firstAnswer code frames := by
  have hbeq : (frame.command == code) = false := by simpa using h
  simp [firstAnswer, hbeq]

theorem firstAnswer_cons_self {code : UInt8} {frame : Frame} {reply : Reply}
    (h : frame.command = code) (hreply : Reply.ofFrame? frame = some reply)
    (frames : List Frame) : firstAnswer code (frame :: frames) = some reply.outcome := by
  simp [firstAnswer, h, hreply]

/-- The first answer is in the first part that has one. -/
theorem firstAnswer_append {command : Command} (hwire : command.onWire = true)
    (first second : List Frame) :
    firstAnswer command.code (first ++ second) =
      (firstAnswer command.code first).or (firstAnswer command.code second) := by
  induction first with
  | nil => rfl
  | cons frame first ih =>
      rw [List.cons_append]
      by_cases hcode : frame.command = command.code
      · obtain ⟨reply, hreply⟩ := Option.isSome_iff_exists.mp (Reply.ofFrame?_isSome hwire hcode)
        rw [firstAnswer_cons_self hcode hreply, firstAnswer_cons_self hcode hreply]
        rfl
      · rw [firstAnswer_cons_of_ne hcode, firstAnswer_cons_of_ne hcode, ih]

namespace Request

theorem command_of_ofPayload {command : Command} {bytes : List UInt8} {request : Request}
    (h : ofPayload command bytes = .ok request) : request.command = command := by
  unfold ofPayload at h
  -- no row of the table looks at more than four bytes
  rcases bytes with _ | ⟨first, _ | ⟨second, _ | ⟨third, _ | ⟨fourth, _ | ⟨fifth, rest⟩⟩⟩⟩⟩ <;>
    cases command <;> dsimp only at h <;> (try split at h) <;> cases h <;> rfl

/-- An accepted request is about the command of its opcode. -/
theorem code_of_ofRaw {code : UInt8} {bytes : List UInt8} {request : Request}
    (h : ofRaw code bytes = .ok request) : request.command.code = code := by
  unfold ofRaw at h
  split at h
  · rename_i command hcommand
    rw [command_of_ofPayload h]
    exact Command.code_of_ofCode? hcommand
  · cases h

end Request

/-! ## Waiting for the answer -/

/-- The byte that an action brings. -/
def Action.byte? : Action → Option UInt8
  | .receive byte => some byte
  | _ => none

/-- The bytes that are received in a run. -/
def bytesOf (actions : List Action) : List UInt8 :=
  actions.filterMap Action.byte?

namespace System

variable {system next : System} {task : Task} {ticket : Ticket} {command : Command}
  {outcome : Option WaitOutcome} {events : List Event}

/-- A thread holds the newest wait for a command, to which an outcome was delivered or
not. -/
structure Pending (system : System) (task : Task) (ticket : Ticket) (command : Command)
    (outcome : Option WaitOutcome) : Prop where
  holds : system.ticketOf task = some ticket
  awaits : system.core.waits.Awaits ticket command outcome

/-- Nobody holds a ticket that was issued. -/
structure Abandoned (system : System) (ticket : Ticket) : Prop where
  lt : ticket < system.core.waits.issued
  not_held : ∀ task, system.ticketOf task ≠ some ticket

/-- A step of another thread than the one that waits neither opens a wait for the command
nor clears the table, which is the last thing that closing the engine does. -/
def Undisturbed (task : Task) (command : Command) (system : System) : Action → Prop
  | .step other _ =>
    other ≠ task → system.opens? other ≠ some command ∧ system.clears other = false
  | _ => True

instance (task : Task) (command : Command) (system : System) (action : Action) :
    Decidable (system.Undisturbed task command action) :=
  match action with
  | .step _ _ => inferInstanceAs (Decidable (_ → _))
  | .begin .. | .enqueue _ | .receive _ | .readFails _ | .readerLeaves | .tune _ => .isTrue trivial

/-- Tickets are not issued twice. -/
theorem Abandoned.step (habandoned : system.Abandoned ticket) (hsound : system.Sound)
    {action : Action} (hstep : system.step action = some (next, events)) :
    next.Abandoned ticket := by
  obtain ⟨hlt, hnot⟩ := habandoned
  cases action with
  | step task choice =>
      have htask := System.step_task hstep
      refine ⟨Nat.lt_of_lt_of_le hlt htask.waits.issued_le, ?_⟩
      intro other hother
      by_cases heq : other = task
      · subst heq
        rcases htask.waits.held_case hother with hold | ⟨hnew, -⟩
        · exact hnot other hold
        · exact absurd hnew (Nat.ne_of_lt hlt)
      · rw [htask.others other heq] at hother
        exact hnot other hother
  | receive byte =>
      rw [step_receive hstep]
      refine ⟨?_, hnot⟩
      show ticket < (system.core.receive byte).waits.issued
      rw [Core.waits_receive hsound.drained]
      split
      · rw [Core.issued_waitsAfter]
        exact hlt
      · exact hlt
  | begin | enqueue | readFails | readerLeaves | tune =>
      obtain ⟨hwaits, -, htickets⟩ := step_of_quiet rfl hstep
      refine ⟨?_, ?_⟩
      · rw [hwaits]
        exact hlt
      · intro task
        rw [htickets]
        exact hnot task

theorem Abandoned.run (habandoned : system.Abandoned ticket) (hsound : system.Sound)
    {actions : List Action} {last : System} {log : List Event}
    (hrun : system.run actions = some (last, log)) : last.Abandoned ticket := by
  have hboth : last.Sound ∧ last.Abandoned ticket :=
    (along_true system actions).invariant
      (P := fun system => system.Sound ∧ system.Abandoned ticket)
      (fun hinv _ hstep => ⟨hinv.1.step hstep, hinv.2.step hinv.1 hstep⟩) hrun
      ⟨hsound, habandoned⟩
  exact hboth.2

theorem Pending.step_other (hpending : system.Pending task ticket command outcome)
    (hsound : system.Sound) {other : Task} (hother : other ≠ task)
    (hopens : system.opens? other ≠ some command) (hclears : system.clears other = false)
    (hstep : TaskStep system other next) : next.Pending task ticket command outcome := by
  obtain ⟨hholds, hawaits⟩ := hpending
  refine ⟨(hstep.others task (Ne.symm hother)).trans hholds, ?_⟩
  have hwaits := hstep.waits
  generalize hopened : system.opens? other = opened at hwaits
  generalize hcleared : system.clears other = cleared at hwaits
  generalize hbefore : system.ticketOf other = before at hwaits
  generalize next.ticketOf other = after at hwaits
  generalize next.core.waits = table at hwaits
  cases hwaits with
  | idle => exact hawaits
  | «open» =>
      refine hawaits.register hsound.waits ?_
      rintro rfl
      exact hopens hopened
  | release =>
      refine hawaits.release ?_
      rintro rfl
      exact hother (hsound.ticket_inj _ _ _ hbefore hholds)
  | clear => exact absurd hclears (by rw [hcleared]; decide)

/-- A step of the thread that waits keeps the wait or gives it up. -/
theorem Pending.step_self (hpending : system.Pending task ticket command outcome)
    (hsound : system.Sound) (hstep : TaskStep system task next) :
    next.Pending task ticket command outcome ∨ next.Abandoned ticket := by
  obtain ⟨hholds, hawaits⟩ := hpending
  have hlt := hsound.ticket_lt _ _ hholds
  have hwaits := hstep.waits
  rw [hholds] at hwaits
  generalize system.opens? task = opened at hwaits
  generalize system.clears task = cleared at hwaits
  generalize hafter : next.ticketOf task = after at hwaits
  generalize htable : next.core.waits = table at hwaits
  cases hwaits with
  | idle => exact .inl ⟨hafter, by rw [htable]; exact hawaits⟩
  | release =>
      refine .inr ⟨?_, ?_⟩
      · rw [htable, WaitTable.issued_release]
        exact hlt
      · intro other hother
        by_cases heq : other = task
        · subst heq
          rw [hafter] at hother
          cases hother
        · rw [hstep.others other heq] at hother
          exact heq (hsound.ticket_inj _ _ _ hother hholds)

/-- What a frame delivers to the wait for a command of the wire. -/
theorem delivers_eq_firstAnswer (core : Core) (hwire : command.onWire = true) {frame : Frame}
    {reply : Reply} (hreply : Reply.ofFrame? frame = some reply) :
    core.delivers reply command = firstAnswer command.code [frame] := by
  have hnever : command ≠ .allTagsReceived := by
    rintro rfl
    cases hwire
  rw [Core.delivers, if_neg hnever]
  by_cases hcode : frame.command = command.code
  · rw [if_pos ((Reply.command_eq_iff hreply command).mpr hcode),
      firstAnswer_cons_self hcode hreply]
  · have hne : reply.command ≠ command := fun heq =>
      hcode ((Reply.command_eq_iff hreply command).mp heq)
    rw [if_neg hne, firstAnswer_cons_of_ne hcode, firstAnswer_nil]

/-- A byte moves the outcome on by the frame that it completes, if it completes one. -/
theorem Pending.receive (hpending : system.Pending task ticket command outcome)
    (hsound : system.Sound) (hwire : command.onWire = true) (byte : UInt8) :
    (system.setCore (system.core.receive byte)).Pending task ticket command
      (outcome.or (firstAnswer command.code (system.core.receiver.find byte).frame.toList)) := by
  obtain ⟨hholds, hawaits⟩ := hpending
  refine ⟨hholds, ?_⟩
  show (system.core.receive byte).waits.Awaits ticket command _
  rw [Core.waits_receive hsound.drained, Receiver.replyTo?]
  cases hframe : (system.core.receiver.find byte).frame with
  | none =>
      show system.core.waits.Awaits ticket command (outcome.or none)
      rw [Option.or_none]
      exact hawaits
  | some frame =>
      rw [Option.bind_some, Option.toList_some]
      cases hreply : Reply.ofFrame? frame with
      | none =>
          -- a frame that is no reply has another opcode
          have hcode : frame.command ≠ command.code := by
            intro hcode
            have hsome := Reply.ofFrame?_isSome hwire hcode
            rw [hreply] at hsome
            cases hsome
          rw [firstAnswer_cons_of_ne hcode, firstAnswer_nil, Option.or_none]
          exact hawaits
      | some reply =>
          rw [← delivers_eq_firstAnswer system.core hwire hreply]
          exact Core.awaits_waitsAfter hsound.waits hawaits (Reply.onWire_command hreply)

/-- Along an undisturbed run the outcome follows the frames that are completed, until the
thread gives its ticket up. -/
theorem Pending.run (hpending : system.Pending task ticket command outcome)
    (hsound : system.Sound) (hwire : command.onWire = true) {actions : List Action} {last : System}
    {log : List Event} (hrun : system.run actions = some (last, log))
    (halong : system.Along (Undisturbed task command) actions) :
    last.Pending task ticket command (outcome.or (firstAnswer command.code
        (validWindows (system.core.receiver.buffer ++ bytesOf actions)))) ∨
      last.Abandoned ticket := by
  induction actions generalizing system outcome log with
  | nil =>
      cases hrun
      refine .inl ?_
      simpa [bytesOf, validWindows_of_wait hsound.waiting] using hpending
  | cons action actions ih =>
      obtain ⟨next, events, later, hstep, hrest, rfl⟩ := run_cons_case hrun
      have hnext := hsound.step hstep
      obtain ⟨hallowed, halong'⟩ := halong next events hstep
      cases action with
      | receive byte =>
          rw [step_receive hstep] at hrest halong' hnext
          rcases ih (hpending.receive hsound hwire byte) hnext hrest halong' with hlast | hlast
          · refine .inl ?_
            have hbuffer : (system.setCore (system.core.receive byte)).core.receiver.buffer =
                (findFrame (system.core.receiver.buffer ++ [byte])).rest :=
              Core.buffer_receive hsound.drained byte
            have hwindows := validWindows_findFrame (system.core.receiver.buffer ++ [byte])
              (bytesOf actions)
            rw [hbuffer, Option.or_assoc, ← firstAnswer_append hwire] at hlast
            rw [List.append_assoc] at hwindows
            show last.Pending task ticket command (outcome.or (firstAnswer command.code
              (validWindows (system.core.receiver.buffer ++ ([byte] ++ bytesOf actions)))))
            rw [hwindows]
            exact hlast
          · exact .inr hlast
      | step other choice =>
          have htask := System.step_task hstep
          have hmoved : next.Pending task ticket command outcome ∨ next.Abandoned ticket := by
            by_cases hother : other = task
            · subst hother
              exact hpending.step_self hsound htask
            · obtain ⟨hopens, hclears⟩ := hallowed hother
              exact .inl (hpending.step_other hsound hother hopens hclears htask)
          rcases hmoved with hmoved | hmoved
          · have hlast := ih hmoved hnext hrest halong'
            rw [htask.buffer_eq] at hlast
            exact hlast
          · exact .inr (hmoved.run hnext hrest)
      | begin | enqueue | readFails | readerLeaves | tune =>
          obtain ⟨hwaits, hreceiver, htickets⟩ := step_of_quiet rfl hstep
          have hmoved : next.Pending task ticket command outcome :=
            ⟨(htickets task).trans hpending.holds, by rw [hwaits]; exact hpending.awaits⟩
          have hlast := ih hmoved hnext hrest halong'
          rw [hreceiver] at hlast
          exact hlast

/-! ## The end of the wait -/

/-- The next step of a caller, taken in this way, ends its operation with this answer, and leads
to a state that is reachable again. -/
def Ends (config : EngineConfig) (connected : Bool) (system : System) (name : Nat)
    (choice : Choice) (answer : Answer) : Prop :=
  ∃ last events, system.step (.step (.caller name) choice) = some (last, events) ∧
    last.answer? name = some answer ∧ Reachable config connected last

theorem answer?_setCall_finished (name : Nat) (answer : Answer) :
    (system.setCall name (.finished answer)).answer? name = some answer := by
  rw [System.answer?, call?_setCall_self]
  rfl

private theorem step_awaiting_proceed {name : Nat} {request : Request}
    (hcall : system.call? name = some (.asking request (.awaiting ticket))) :
    system.step (.step (.caller name) .proceed) =
      (system.core.waits.outcome? ticket).map fun outcome =>
        ((system.setCore (system.core.release ticket)).setCall name
          (.finished (Call.answerOf outcome)), []) := by
  simp only [step, stepCaller, hcall, Option.bind_some, Call.step, Call.ask, Exchange.step,
    Option.map_map]
  rfl

/-- The time of a wait can be over at any moment, whatever was delivered to it. -/
theorem ends_of_expire {config : EngineConfig} {connected : Bool} {name : Nat} {request : Request}
    (hreachable : Reachable config connected system)
    (hcall : system.call? name = some (.asking request (.awaiting ticket))) :
    system.Ends config connected name .expire (.outcome .timedOut) := by
  have hstep : system.step (.step (.caller name) .expire) =
      some ((system.setCore (system.core.release ticket)).setCall name
          (.finished (.outcome .timedOut)),
        [.noted (.waitExpired request.command)]) := by
    simp only [step, stepCaller, hcall, Option.bind_some, Call.step, Call.ask, Exchange.step,
      Option.map_some]
    rfl
  exact ⟨_, _, hstep, answer?_setCall_finished name _, hreachable.step hstep⟩

/-- As long as nothing was delivered, a caller does not go on. -/
theorem Pending.step_eq_none {name : Nat} {request : Request}
    (hpending : system.Pending (.caller name) ticket command none)
    (hcall : system.call? name = some (.asking request (.awaiting ticket))) :
    system.step (.step (.caller name) .proceed) = none := by
  rw [step_awaiting_proceed hcall, hpending.awaits.outcome?_eq]
  rfl

theorem Pending.ends {config : EngineConfig} {connected : Bool} {name : Nat} {request : Request}
    {delivered : WaitOutcome} (hreachable : Reachable config connected system)
    (hpending : system.Pending (.caller name) ticket command (some delivered))
    (hcall : system.call? name = some (.asking request (.awaiting ticket))) :
    system.Ends config connected name .proceed (Call.answerOf delivered) := by
  have hstep := step_awaiting_proceed hcall
  rw [hpending.awaits.outcome?_eq, Option.map_some] at hstep
  exact ⟨_, _, hstep, answer?_setCall_finished name _, hreachable.step hstep⟩

/-- A thread that opens a wait holds the newest one, and nothing was delivered to it. -/
theorem pending_of_opens (hsound : system.Sound) (hopens : system.opens? task = some command)
    (hstep : TaskStep system task next) :
    next.Pending task system.core.waits.issued command none := by
  have hwaits := hstep.waits
  rw [hopens] at hwaits
  generalize system.clears task = cleared at hwaits
  generalize system.ticketOf task = before at hwaits
  generalize hafter : next.ticketOf task = after at hwaits
  generalize htable : next.core.waits = table at hwaits
  cases hwaits with
  | «open» => exact ⟨hafter, by rw [htable]; exact hsound.waits.awaits_register command⟩

/-- The wait of a caller that has written its request carries the first answer so far. -/
private theorem pending_of_request {start middle : System} {name : Nat} {code : UInt8}
    {payload : List UInt8} {request : Request} {actions : List Action} {log : List Event}
    (hsound : start.Sound) (hrequest : Request.ofRaw code payload = .ok request)
    (hbegun : start.call? name = some (Operation.executeAndWait code payload).begin)
    (hrun : start.run (.step (.caller name) .proceed :: actions) = some (middle, log))
    (hwritten : middle.call? name = some (.asking request (.awaiting start.core.waits.issued)))
    (halone : start.Along (Undisturbed (.caller name) request.command)
      (.step (.caller name) .proceed :: actions)) :
    middle.Pending (.caller name) start.core.waits.issued request.command
      (firstAnswer code (validWindows (start.core.receiver.buffer ++ bytesOf actions))) := by
  have hbegin : (Operation.executeAndWait code payload).begin = .asking request .opening := by
    simp only [Operation.begin, beginRaw, hrequest]
  obtain ⟨opened, events, later, hstep, hrest, rfl⟩ := run_cons_case hrun
  have htask := System.step_task hstep
  have hopens : start.opens? (.caller name) = some request.command := by
    simp only [opens?, hbegun, hbegin, Option.bind_some]
    rfl
  have hpending := (pending_of_opens hsound hopens htask).run (hsound.step hstep)
    (Request.onWire_command request) hrest (halone opened events hstep).2
  rw [htask.buffer_eq, Request.code_of_ofRaw hrequest, Option.none_or] at hpending
  rcases hpending with hpending | habandoned
  · exact hpending
  · -- the caller still holds the ticket
    have hholds : middle.ticketOf (.caller name) = some start.core.waits.issued := by
      rw [ticketOf_caller hwritten]
      rfl
    exact absurd hholds (habandoned.not_held (.caller name))

/-- **Requests get their answers.**  A caller has begun an accepted raw request in any reachable
state.  It opens its wait, the request is written, and in the meantime the threads take any steps
and the reader sends any bytes, while no other thread opens a wait for the same command.  Let the
windows be cut from the bytes that were in the buffer when the wait was opened and from those
that have come since.

* When there is a valid window with the opcode of the request, the first one decides.  It makes
  one call of a handler, for the command of the request.  If this is the call for a success, the
  caller goes on with "completed", and if it is the call for an error, with this error.
* When there is none, the caller cannot go on.
* The time may be over at any moment, and then the caller is answered that it is.  This ends a
  wait without an answer; and a wait for which the answer has just been delivered, when the
  caller has not gone on yet.

The state in which the operation ends is reachable, so that the same holds of the next
request. -/
theorem outcome_of_request {config : EngineConfig} {connected : Bool} {start middle : System}
    {name : Nat} {code : UInt8} {payload : List UInt8} {request : Request}
    {actions : List Action} {log : List Event}
    (hreachable : Reachable config connected start)
    (hrequest : Request.ofRaw code payload = .ok request)
    (hbegun : start.call? name = some (Operation.executeAndWait code payload).begin)
    (hrun : start.run (.step (.caller name) .proceed :: actions) = some (middle, log))
    (hwritten : middle.call? name =
      some (.asking request (.awaiting start.core.waits.issued)))
    (halone : start.Along (Undisturbed (.caller name) request.command)
      (.step (.caller name) .proceed :: actions)) :
    let frames := validWindows (start.core.receiver.buffer ++ bytesOf actions)
    (∀ frame, frames.find? (fun frame => frame.command == code) = some frame →
      ∃ result, Handler.recorder.dispatch frame [] =
          (some request.command, [⟨request.command, result⟩]) ∧
        (∀ response, result = .ok response →
          middle.Ends config connected name .proceed (.outcome .completed)) ∧
        ∀ error, result = .error error →
          middle.Ends config connected name .proceed (.refused (.device error))) ∧
    (frames.find? (fun frame => frame.command == code) = none →
      middle.step (.step (.caller name) .proceed) = none) ∧
    middle.Ends config connected name .expire (.outcome .timedOut) := by
  intro frames
  have hpending := pending_of_request hreachable.sound hrequest hbegun hrun hwritten halone
  have hmiddle := hreachable.run hrun
  refine ⟨?_, ?_, ends_of_expire hmiddle hwritten⟩
  · intro frame hfind
    have hcode : frame.command = request.command.code := by
      rw [Request.code_of_ofRaw hrequest]
      simpa using List.find?_some hfind
    have hreply := Reply.ofFrame?_of_code (Request.onWire_command request) hcode
    rw [firstAnswer, hfind, Option.bind_some, hreply, Option.map_some] at hpending
    refine ⟨_, Handler.dispatch_recorder hreply [], ?_, ?_⟩
    · intro response hok
      rw [Reply.outcome, hok] at hpending
      exact hpending.ends hmiddle hwritten
    · intro error herror
      rw [Reply.outcome, herror] at hpending
      exact hpending.ends hmiddle hwritten
  · intro hnone
    rw [firstAnswer, hnone, Option.bind_none] at hpending
    exact hpending.step_eq_none hwritten

/-- A caller begins to ask an engine for a reset. -/
private def resetBegun : List Action :=
  [.begin 0 .connect, .step (.caller 0) .proceed, .step (.caller 0) .proceed,
    .begin 1 (.executeAndWait 0x70 [])]

/-- The wait is opened and the request is written, and some bytes come. -/
private def resetAsked (bytes : List UInt8) : List Action :=
  [.step (.caller 1) .proceed, .step (.caller 1) .proceed] ++ bytes.map .receive

/-- The time is over, and the caller asks once more. -/
private def askedAgain : List Action :=
  [.step (.caller 1) .expire, .begin 1 (.executeAndWait 0x70 [])]

/-- A reset is acknowledged after some noise and a stray header, or refused, or there is no
answer but half a frame, to which the answer to the next request is attached. -/
theorem outcome_of_reset :
    let start := (initial .standard true).after resetBegun
    let asked (start : System) (bytes : List UInt8) :=
      start.after (.step (.caller 1) .proceed :: resetAsked bytes)
    let silent := asked start [0xA0, 0x04, 0x01]
    (asked start [0x11, 0xA0, 0x01, 0xA0, 0x04, 0x01, 0x70, 0x10, 0xDB]).Ends .standard true 1
        .proceed (.outcome .completed) ∧
      (asked start [0xA0, 0x04, 0x01, 0x70, 0x22, 0xC9]).Ends .standard true 1 .proceed
        (.refused (.device ⟨0x22⟩)) ∧
      silent.step (.step (.caller 1) .proceed) = none ∧
      silent.Ends .standard true 1 .expire (.outcome .timedOut) ∧
      (asked (silent.after askedAgain) [0x70, 0x10, 0xDB]).Ends .standard true 1 .proceed
        (.outcome .completed) := by
  intro start asked silent
  have hrequest : Request.ofRaw 0x70 [] = .ok .reset := rfl
  obtain ⟨_, hbegun⟩ := run_after (initial .standard true) resetBegun (by decide +kernel)
  have hstart : Reachable .standard true start := ⟨resetBegun, _, hbegun⟩
  have hdone (address : UInt8) : Handler.recorder.dispatch (.make address 0x70 [0x10]) [] =
      (some .reset, [⟨.reset, .ok .resetDone⟩]) := rfl
  have hfailed (address : UInt8) : Handler.recorder.dispatch (.make address 0x70 [0x22]) [] =
      (some .reset, [⟨.reset, .error ⟨0x22⟩⟩]) := rfl
  obtain ⟨_, hsilent⟩ := run_after start
    (.step (.caller 1) .proceed :: resetAsked [0xA0, 0x04, 0x01]) (by decide +kernel)
  obtain ⟨-, hnone, hexpired⟩ := outcome_of_request hstart hrequest (by decide +kernel) hsilent
    (by decide +kernel) (by decide +kernel)
  refine ⟨?_, ?_, hnone (by decide +kernel), hexpired, ?_⟩
  · obtain ⟨_, hrun⟩ := run_after start (.step (.caller 1) .proceed ::
      resetAsked [0x11, 0xA0, 0x01, 0xA0, 0x04, 0x01, 0x70, 0x10, 0xDB]) (by decide +kernel)
    obtain ⟨hanswer, -, -⟩ := outcome_of_request hstart hrequest (by decide +kernel) hrun
      (by decide +kernel) (by decide +kernel)
    obtain ⟨result, hcalls, hok, -⟩ := hanswer (.make 0x01 0x70 [0x10]) (by decide +kernel)
    rw [hdone] at hcalls
    cases hcalls
    exact hok .resetDone rfl
  · obtain ⟨_, hrun⟩ := run_after start (.step (.caller 1) .proceed ::
      resetAsked [0xA0, 0x04, 0x01, 0x70, 0x22, 0xC9]) (by decide +kernel)
    obtain ⟨hanswer, -, -⟩ := outcome_of_request hstart hrequest (by decide +kernel) hrun
      (by decide +kernel) (by decide +kernel)
    obtain ⟨result, hcalls, -, herror⟩ := hanswer (.make 0x01 0x70 [0x22]) (by decide +kernel)
    rw [hfailed] at hcalls
    cases hcalls
    exact herror ⟨0x22⟩ rfl
  · -- the half frame is still in the buffer when the second wait is opened
    obtain ⟨_, hagain⟩ := run_after silent askedAgain (by decide +kernel)
    obtain ⟨_, hrun⟩ := run_after (silent.after askedAgain)
      (.step (.caller 1) .proceed :: resetAsked [0x70, 0x10, 0xDB]) (by decide +kernel)
    obtain ⟨hanswer, -, -⟩ := outcome_of_request ((hstart.run hsilent).run hagain) hrequest
      (by decide +kernel) hrun (by decide +kernel) (by decide +kernel)
    obtain ⟨result, hcalls, hok, -⟩ := hanswer (.make 0x01 0x70 [0x10]) (by decide +kernel)
    rw [hdone] at hcalls
    cases hcalls
    exact hok .resetDone rfl

end System

end TagInventory
