import TagInventory.Proofs.Engine.Course
import TagInventory.Proofs.Engine.Operations

/-!
# The flag that says that requests are sent

The flag is raised in one place, by the thread that opens the link, right after its reader
thread was started (`FlagStep`).  The same thread then asks for the firmware version and takes
the flag down again unless it got one.  Everybody else takes the flag down or leaves it alone.

Two invariants follow.  The flag is up only where there is a link
(`Reachable.connected_of_initialized`), and when nobody is opening the link any more, a flag
that is up means that the firmware version is known (`Reachable.firmware_of_initialized`).
-/

namespace TagInventory

/-! ## Firmware -/

namespace Session

theorem firmware_apply (session : Session) (reply : Reply)
    (h : session.firmware.isSome = true) : (session.apply reply).firmware.isSome = true := by
  rw [apply]
  split
  · rename_i response _
    cases response <;> first | exact h | rfl
  · exact h

end Session

namespace Core

/-- Configuration and link are as before, and the firmware version is not forgotten. -/
structure Keeps (core after : Core) : Prop where
  config_eq : after.config = core.config
  connected_eq : after.connected = core.connected
  firmware : core.session.firmware.isSome = true → after.session.firmware.isSome = true

theorem Keeps.refl (core : Core) : core.Keeps core := ⟨rfl, rfl, id⟩

theorem keeps_of_receiver {core after : Core} (hconfig : after.config = core.config)
    (hconnected : after.connected = core.connected) (hreceiver : after.receiver = core.receiver) :
    core.Keeps after :=
  ⟨hconfig, hconnected, by rw [session, session, hreceiver]; exact id⟩

theorem keeps_receive {core : Core} (hdrained : core.session.Drained) (byte : UInt8) :
    core.Keeps (core.receive byte) := by
  refine ⟨(Takes.receive core byte).config_eq, (Takes.receive core byte).connected_eq, ?_⟩
  intro hfirmware
  cases hreply : core.receiver.replyTo? byte with
  | none =>
      rw [receive_of_none hreply, session]
      dsimp only
      rw [Receiver.session_push_of_none hreply]
      exact hfirmware
  | some reply =>
      rw [receive_of_reply hdrained hreply]
      exact Session.firmware_apply core.session reply hfirmware

end Core

/-! ## Operations -/

/-- The next step writes a frame. -/
def Demand.writes : Demand → Bool
  | write _ => true
  | _ => false

namespace Call

variable {engine : Engine} {thread : Thread} {choice : Choice} {call : Call}
  {advance : CallAdvance Call}

/-- The call opens the link. -/
def connects : Call → Bool
  | flushing | startingReader | askingFirmware _ | judging _ | failing | joiningReader => true
  | _ => false

/-- The flag is up and the reader has to say who it is. -/
def inHandshake : Call → Bool
  | askingFirmware _ | judging _ | failing => true
  | _ => false

theorem connects_of_inHandshake (h : call.inHandshake = true) : call.connects = true := by
  cases call <;> first | rfl | cases h

/-- What a step does to the flag. -/
inductive FlagStep (core after : Core) (call next : Call) : Prop
  | raised (hcall : call = .startingReader) (hnext : next = .askingFirmware .opening)
  | cleared (hflag : after.initialized = false)
  | kept (hflag : after.initialized = core.initialized)

private theorem ask_flag {request : Request} {exchange : Exchange} {going : Exchange → Call}
    {ended : WaitOutcome → Call} {failed : Failure → Call}
    (h : ask engine request exchange choice going ended failed = some advance) :
    FlagStep engine.core advance.engine.core call advance.next ∧
      advance.engine.core.connected = engine.core.connected := by
  rw [ask, Option.map_eq_some_iff] at h
  obtain ⟨inner, hinner, rfl⟩ := h
  cases Exchange.step_case hinner with
  | broke ticket cause hconnected => exact ⟨.cleared rfl, rfl⟩
  | _ => exact ⟨.kept rfl, rfl⟩

/-- What a step of an operation does to the flag, and that it leaves the link alone. -/
theorem step_flag (h : call.step engine thread choice = some advance) :
    FlagStep engine.core advance.engine.core call advance.next ∧
      advance.engine.core.connected = engine.core.connected := by
  cases call with
  | asking | askingRegion | askingPower | askingFirmware => exact ask_flag h
  | starting plan step =>
      have hcore := (starting_effect h).core_eq
      exact ⟨.kept (by rw [hcore]), by rw [hcore]⟩
  | stopping step | closingRun step =>
      cases choice <;> cases step <;>
        simp only [Call.step, moveCore, reduceCtorEq, Option.map_eq_some_iff] at h
      case proceed.stopped =>
        cases h
        exact ⟨.kept rfl, rfl⟩
      all_goals
        obtain ⟨inner, hinner, rfl⟩ := h
        dsimp only
        rw [stop_core hinner]
        exact ⟨.kept rfl, rfl⟩
  | writing request =>
      simp only [Call.step, Option.map_eq_some_iff] at h
      obtain ⟨inner, hwrite, rfl⟩ := h
      unfold Core.write at hwrite
      split at hwrite <;> cases choice <;> cases hwrite
      · exact ⟨.kept rfl, rfl⟩
      · exact ⟨.cleared rfl, rfl⟩
      · exact ⟨.kept rfl, rfl⟩
  | flushing =>
      simp only [Call.step] at h
      split at h <;> cases choice <;> cases h <;> exact ⟨.kept rfl, rfl⟩
  | startingReader =>
      cases choice <;> cases h
      · exact ⟨.raised rfl rfl, rfl⟩
      · exact ⟨.cleared rfl, rfl⟩
  | failing | closingLink =>
      cases choice <;> cases h
      exact ⟨.cleared rfl, rfl⟩
  | _ =>
      cases choice <;> simp only [Call.step, moveCore, reduceCtorEq] at h <;>
        (try split at h) <;> cases h <;> exact ⟨.kept rfl, rfl⟩

/-- A write that fails takes the flag down. -/
theorem initialized_of_writeFails {cause : String}
    (h : call.step engine thread (.fail cause) = some advance)
    (hdemand : (call.demand engine.core).writes = true) :
    advance.engine.core.initialized = false := by
  cases call with
  | asking | askingRegion | askingPower | askingFirmware =>
      simp only [Call.step, ask, Option.map_eq_some_iff] at h
      obtain ⟨inner, hinner, rfl⟩ := h
      cases Exchange.step_case hinner with
      | broke => rfl
  | writing request =>
      simp only [Call.step, Option.map_eq_some_iff] at h
      obtain ⟨inner, hwrite, rfl⟩ := h
      unfold Core.write at hwrite
      split at hwrite <;> cases hwrite
      rfl
  | _ => cases hdemand

theorem step_keeps (h : call.step engine thread choice = some advance) :
    engine.core.Keeps advance.engine.core := by
  obtain ⟨hleaves, -⟩ := step_leaves h
  exact Core.keeps_of_receiver hleaves.config_eq (step_flag h).2 hleaves.receiver_eq

/-- Opening the link is begun as an operation of its own. -/
theorem connects_of_step (h : call.step engine thread choice = some advance)
    (hconnects : advance.next.connects = true) : call.connects = true := by
  cases call with
  | asking | askingRegion | askingPower =>
      simp only [Call.step, ask, Option.map_eq_some_iff] at h
      obtain ⟨inner, -, rfl⟩ := h
      dsimp only at hconnects
      split at hconnects <;> cases hconnects
  | starting plan step =>
      obtain ⟨plan', step', hnext⟩ | ⟨answer, hnext, -⟩ := (starting_effect h).next_eq <;>
        · rw [hnext] at hconnects
          cases hconnects
  | stopping step | closingRun step =>
      cases choice <;> cases step <;>
        simp only [Call.step, moveCore, reduceCtorEq, Option.map_eq_some_iff] at h
      case proceed.stopped =>
        cases h
        cases hconnects
      all_goals
        obtain ⟨inner, -, rfl⟩ := h
        cases hconnects
  | writing request =>
      simp only [Call.step, Option.map_eq_some_iff] at h
      obtain ⟨inner, hwrite, rfl⟩ := h
      obtain ⟨-, hnext | ⟨failure, hnext⟩⟩ := write_next hwrite <;>
        · dsimp only at hconnects
          rw [hnext] at hconnects
          cases hconnects
  | flushing | startingReader | askingFirmware | judging | failing | joiningReader => rfl
  | _ =>
      cases choice <;> simp only [Call.step, moveCore, reduceCtorEq] at h <;>
        (try split at h) <;> cases h <;> cases hconnects

/-- The handshake goes on, or the flag is taken down, or the reader has said who it is. -/
theorem step_inHandshake (h : call.step engine thread choice = some advance)
    (hshake : call.inHandshake = true) :
    advance.next.inHandshake = true ∨ advance.engine.core.initialized = false ∨
      engine.core.session.firmware.isSome = true := by
  cases call with
  | askingFirmware exchange =>
      simp only [Call.step, ask, Option.map_eq_some_iff] at h
      obtain ⟨inner, -, rfl⟩ := h
      refine .inl ?_
      dsimp only
      split <;> rfl
  | judging completed =>
      cases choice <;> simp only [Call.step, reduceCtorEq] at h
      cases haccepts : accepts completed engine.core with
      | none =>
          rw [haccepts] at h
          cases h
          exact .inl rfl
      | some version =>
          rw [accepts] at haccepts
          split at haccepts
          · exact .inr (.inr (by rw [haccepts]; rfl))
          · cases haccepts
  | failing =>
      cases choice <;> cases h
      exact .inr (.inl rfl)
  | _ => cases hshake

/-- The reader thread is started where there is a link. -/
theorem step_startingReader (h : call.step engine thread choice = some advance)
    (hnext : advance.next = .startingReader) : engine.core.connected = true := by
  have hconnects : call.connects = true := connects_of_step h (by rw [hnext]; rfl)
  cases call with
  | flushing =>
      simp only [Call.step] at h
      split at h
      · assumption
      · cases choice <;> cases h
        cases hnext
  | askingFirmware exchange =>
      simp only [Call.step, ask, Option.map_eq_some_iff] at h
      obtain ⟨inner, -, rfl⟩ := h
      dsimp only at hnext
      split at hnext <;> cases hnext
  | judging completed =>
      cases choice <;> simp only [Call.step, reduceCtorEq] at h
      split at h <;> cases h <;> cases hnext
  | startingReader | failing =>
      cases choice <;> cases h <;> cases hnext
  | joiningReader =>
      cases choice <;> simp only [Call.step, moveCore, reduceCtorEq] at h
      split at h <;> cases h
      cases hnext
  | _ => cases hconnects

end Call

theorem Operation.connects_begin {operation : Operation} (h : operation.begin.connects = true) :
    operation = .connect := by
  cases operation with
  | connect => rfl
  | execute code payload | executeAndWait code payload =>
      simp only [begin, beginRaw] at h
      split at h <;> cases h
  | _ => cases h

/-! ## Workers -/

namespace Worker

variable {core : Core} {worker : Worker} {choice : Choice} {advance : Advance Worker}

theorem step_flag (h : worker.step core choice = some advance) :
    (advance.core.initialized = false ∨
        advance.core.initialized = core.initialized ∧ ∀ cause, choice ≠ .fail cause) ∧
      advance.core.connected = core.connected := by
  cases hwhere : worker.phase with
  | asking stage exchange =>
      obtain ⟨inner, hinner, rfl⟩ := step_of_asking hwhere h
      rw [core_afterExchange]
      cases Exchange.step_case hinner with
      | opened => cases stage <;> exact ⟨.inr ⟨rfl, by simp⟩, rfl⟩
      | broke => exact ⟨.inl rfl, rfl⟩
      | _ => exact ⟨.inr ⟨rfl, by simp⟩, rfl⟩
  | _ =>
      unfold step at h
      cases choice <;>
        simp only [hwhere, move, pause, commitCycle, Core.tagOperation, reduceCtorEq] at h <;>
        (repeat' split at h) <;> cases h <;> exact ⟨.inr ⟨rfl, by simp⟩, rfl⟩

theorem step_keeps (h : worker.step core choice = some advance) : core.Keeps advance.core := by
  refine ⟨step_config h, (step_flag h).2, ?_⟩
  rw [Core.session, Core.session, step_receiver_eq h]
  split <;> exact id

end Worker

/-! ## Actions -/

/-- A read fails, or what a step asks for. -/
def Action.isFailure : Action → Bool
  | .readFails _ | .step _ (.fail _) => true
  | _ => false

namespace System

variable {system next : System} {action : Action} {events : List Event}

/-- A write or a read fails. -/
def linkFails (system : System) : Action → Bool
  | .readFails _ => true
  | .step task (.fail _) => (system.demand task).writes
  | _ => false

/-- Nobody is opening the link. -/
def Settled (system : System) : Prop :=
  ∀ thread call, system.placeOf thread = some call → call.connects = false

/-- Whether the link is being opened is seen from the operations in progress. -/
theorem settled_of_all
    (h : (system.calls.map Prod.snd ++ system.handling.toList.map Prod.snd).all
      (fun call => !call.connects) = true) : system.Settled := by
  intro thread call hplace
  have hmem : call ∈ system.calls.map Prod.snd ++ system.handling.toList.map Prod.snd := by
    cases thread with
    | caller name =>
        obtain ⟨before, after, hcalls, -⟩ := List.lookup_eq_some_iff.mp hplace
        simp [hcalls]
    | control =>
        obtain ⟨entry, hentry, rfl⟩ := Option.map_eq_some_iff.mp hplace
        simp [hentry]
  simpa using List.all_eq_true.mp h call hmem

theorem step_keeps (hsound : system.Sound) (h : system.step action = some (next, events)) :
    system.core.Keeps next.core := by
  cases actionStep h with
  | carried thread choice call advance _ _ hstep hengine =>
      rw [core, core, hengine]
      exact Call.step_keeps hstep
  | worked run choice worker advance _ _ hstep hcore =>
      rw [hcore]
      exact Worker.step_keeps hstep
  | turned _ _ _ _ _ _ hcore =>
      rw [hcore]
      exact .refl _
  | aside hthread htask =>
      cases action with
      | step => cases htask
      | begin => cases hthread
      | receive byte =>
          rw [step_receive h]
          exact Core.keeps_receive hsound.drained byte
      | enqueue event =>
          cases h
          exact .refl _
      | tune tunable =>
          cases h
          cases tunable <;> exact ⟨rfl, rfl, id⟩
      | readFails | readerLeaves =>
          simp only [step] at h
          split at h <;> cases h
          exact ⟨rfl, rfl, id⟩

/-- The flag is raised by a thread that opens the link, and by nobody else. -/
theorem initialized_of_step (h : system.step action = some (next, events))
    (hflag : next.core.initialized = true) :
    system.core.initialized = true ∨
      ∃ thread, system.placeOf thread = some .startingReader ∧
        next.placeOf thread = some (.askingFirmware .opening) := by
  cases actionStep h with
  | carried thread choice call advance _ hplace hstep hengine hnext =>
      rw [core, hengine] at hflag
      cases (Call.step_flag hstep).1 with
      | raised hcall hafter =>
          exact .inr ⟨thread, by rw [hplace, hcall], by rw [hnext, hafter]⟩
      | cleared hcleared =>
          rw [hcleared] at hflag
          cases hflag
      | kept hkept => exact .inl (hkept.symm.trans hflag)
  | worked run choice worker advance _ _ hstep hcore =>
      rw [hcore] at hflag
      rcases (Worker.step_flag hstep).1 with hcleared | ⟨hkept, -⟩
      · rw [hcleared] at hflag
        cases hflag
      · exact .inl (hkept.symm.trans hflag)
  | turned _ _ _ _ _ _ hcore =>
      rw [hcore] at hflag
      exact .inl hflag
  | aside hthread htask =>
      refine .inl ?_
      cases action with
      | step => cases htask
      | begin => cases hthread
      | receive byte =>
          rw [step_receive h] at hflag
          exact (Core.Takes.receive _ byte).initialized_eq.symm.trans hflag
      | enqueue event =>
          cases h
          exact hflag
      | tune tunable =>
          cases h
          cases tunable <;> exact hflag
      | readFails =>
          simp only [step] at h
          split at h <;> cases h
          cases hflag
      | readerLeaves =>
          simp only [step] at h
          split at h <;> cases h
          exact hflag

theorem demand_of_place {thread : Thread} {call : Call} (h : system.placeOf thread = some call) :
    system.demand thread.task = call.demand system.core := by
  cases thread with
  | caller name =>
      have hcall : system.call? name = some call := h
      simp only [Thread.task, demand, hcall]
  | control =>
      obtain ⟨⟨event, same⟩, hhandling, rfl⟩ := Option.map_eq_some_iff.mp h
      simp only [Thread.task, demand, hhandling]

/-- A write or a read that fails takes the flag down. -/
theorem initialized_of_linkFails (h : system.step action = some (next, events))
    (hfails : system.linkFails action = true) : next.core.initialized = false := by
  cases actionStep h with
  | carried thread choice call advance haction hplace hstep hengine hnext =>
      rw [core, hengine]
      subst haction
      cases choice with
      | fail cause =>
          have hdemand : (system.demand thread.task).writes = true := hfails
          rw [demand_of_place hplace] at hdemand
          exact Call.initialized_of_writeFails hstep hdemand
      | proceed | expire => cases hfails
  | worked run choice worker advance haction _ hstep hcore =>
      rw [hcore]
      rcases (Worker.step_flag hstep).1 with hcleared | ⟨-, hchoice⟩
      · exact hcleared
      · rw [haction] at hfails
        cases choice with
        | fail cause => exact absurd rfl (hchoice cause)
        | proceed | expire => cases hfails
  | turned thread hthread hfail =>
      cases action with
      | step task choice =>
          cases choice with
          | fail cause => exact absurd rfl (hfail task cause)
          | proceed | expire => cases hfails
      | readFails => cases hthread
      | _ => cases hfails
  | aside hthread htask =>
      cases action with
      | step => cases htask
      | readFails cause =>
          simp only [step] at h
          split at h <;> cases h
          rfl
      | _ => cases hfails

/-- Nobody opens the link in between. -/
theorem Settled.step (hsettled : system.Settled) (haction : action.connects = false)
    (h : system.step action = some (next, events)) : next.Settled := by
  intro thread call hcall
  by_contra hconnects
  rw [Bool.not_eq_false] at hconnects
  cases placeStep h thread with
  | carried choice before advance _ hplace hstep _ hnext =>
      rw [hnext] at hcall
      cases hcall
      have hold := Call.connects_of_step hstep hconnects
      rw [hsettled thread before hplace] at hold
      cases hold
  | turned _ _ hafter =>
      obtain ⟨operation, rfl, hconnect⟩ := hafter call hcall
      rw [hconnect (Operation.connects_begin hconnects)] at haction
      cases haction
  | stays _ hsame =>
      rw [hsame] at hcall
      rw [hsettled thread call hcall] at hconnects
      cases hconnects

/-! ## Reachable systems -/

/-- The flag is up only where there is a link, and while the firmware version is unknown there
is a thread that will take it down. -/
private structure Linked (system : System) : Prop where
  connected : system.core.initialized = true ∨
    (∃ thread, system.placeOf thread = some .startingReader) → system.core.connected = true
  firmware : system.core.initialized = true → system.core.session.firmware.isSome = true ∨
    ∃ thread call, system.placeOf thread = some call ∧ call.inHandshake = true

private theorem linked_step (hsound : system.Sound) (hlinked : system.Linked)
    (h : system.step action = some (next, events)) : next.Linked := by
  have hkeeps := step_keeps hsound h
  constructor
  · intro hcase
    rw [hkeeps.connected_eq]
    rcases hcase with hflag | ⟨thread, hplace⟩
    · rcases initialized_of_step h hflag with hold | ⟨thread, hplace, -⟩
      · exact hlinked.connected (.inl hold)
      · exact hlinked.connected (.inr ⟨thread, hplace⟩)
    · cases placeStep h thread with
      | carried choice call advance _ _ hstep _ hnext =>
          rw [hnext] at hplace
          exact Call.step_startingReader hstep (Option.some.inj hplace)
      | turned _ _ hafter =>
          obtain ⟨operation, hbegin, -⟩ := hafter _ hplace
          obtain rfl : operation = .connect :=
            Operation.connects_begin (by rw [← hbegin]; rfl)
          cases hbegin
      | stays _ hsame => exact hlinked.connected (.inr ⟨thread, hsame.symm.trans hplace⟩)
  · intro hflag
    rcases initialized_of_step h hflag with hold | ⟨thread, -, hplace⟩
    · rcases hlinked.firmware hold with hfirmware | ⟨thread, call, hplace, hshake⟩
      · exact .inl (hkeeps.firmware hfirmware)
      · cases placeStep h thread with
        | carried choice before advance _ hbefore hstep hengine hnext =>
            rw [hplace] at hbefore
            cases hbefore
            rcases Call.step_inHandshake hstep hshake with hgoing | hcleared | hfirmware
            · exact .inr ⟨thread, advance.next, hnext, hgoing⟩
            · rw [core, hengine, hcleared] at hflag
              cases hflag
            · exact .inl (hkeeps.firmware hfirmware)
        | turned _ hbefore =>
            -- the handshake is the middle of an operation
            refine absurd ⟨call, hplace, ?_⟩ hbefore
            cases call <;> first | rfl | cases hshake
        | stays _ hsame => exact .inr ⟨thread, call, hsame.trans hplace, hshake⟩
    · exact .inr ⟨thread, _, hplace, rfl⟩

namespace Reachable

variable {config : EngineConfig} {connected : Bool}

private theorem linked (h : Reachable config connected system) : system.Linked := by
  have hboth : system.Sound ∧ system.Linked := by
    refine h.invariant (P := fun system => system.Sound ∧ system.Linked)
      ⟨sound_initial config connected, ?_, ?_⟩
      fun hinv hstep => ⟨hinv.1.step hstep, linked_step hinv.1 hinv.2 hstep⟩
    · rintro (hflag | ⟨thread, hplace⟩)
      · cases hflag
      · cases thread <;> cases hplace
    · intro hflag
      cases hflag
  exact hboth.2

theorem config_eq (h : Reachable config connected system) : system.core.config = config := by
  have hboth : system.Sound ∧ system.core.config = config :=
    h.invariant (P := fun system => system.Sound ∧ system.core.config = config)
      ⟨sound_initial config connected, rfl⟩
      fun hinv hstep => ⟨hinv.1.step hstep, (step_keeps hinv.1 hstep).config_eq.trans hinv.2⟩
  exact hboth.2

/-- Requests are sent only where there is a link. -/
theorem connected_of_initialized (h : Reachable config connected system)
    (hflag : system.core.initialized = true) : system.core.connected = true :=
  h.linked.connected (.inl hflag)

/-- When nobody is opening the link, the flag stands for a reader that has said who it is. -/
theorem firmware_of_initialized (h : Reachable config connected system)
    (hsettled : system.Settled) (hflag : system.core.initialized = true) :
    system.core.session.firmware.isSome = true := by
  rcases h.linked.firmware hflag with hfirmware | ⟨thread, call, hplace, hshake⟩
  · exact hfirmware
  · have hconnects := Call.connects_of_inHandshake hshake
    rw [hsettled thread call hplace] at hconnects
    cases hconnects

end Reachable

end System

end TagInventory
