import TagInventory.Proofs.Encoding
import TagInventory.Proofs.Engine.Handshake
import TagInventory.Proofs.RawRequest

/-!
# Executing raw requests

A caller has a raw request executed, and may wait for the answer of the reader.  The main
statement says which raw requests are refused, that a refusal changes nothing but the answer of
the caller, and that one frame is written otherwise, which the reader accepts.

An operation that executes a request is in one of a few places (`Executing`), each of which is a
number of steps away from the end and knows whether the frame is still to be written.
-/

namespace TagInventory

/-- Executes a raw request, and waits for the answer or not. -/
def Operation.raw (waits : Bool) (code : UInt8) (payload : List UInt8) : Operation :=
  if waits then .executeAndWait code payload else .execute code payload

/-- The answer says that the request itself is wrong. -/
def Answer.faultsRequest : Answer → Bool
  | refused (.unsupportedCommand _) | refused (.invalidParameter _) => true
  | _ => false

/-- The places of an operation that executes a request, with the number of steps until it ends
and the frames that are still to be written. -/
inductive Executing (frame : Frame) (request : Request) : Call → Nat → List Frame → Prop
  | executing : Executing frame request (.executing request) 2 [frame]
  | writing : Executing frame request (.writing request) 1 [frame]
  | opening : Executing frame request (.asking request .opening) 4 [frame]
  | checking (ticket : Ticket) :
      Executing frame request (.asking request (.checking ticket)) 3 [frame]
  | asking (ticket : Ticket) : Executing frame request (.asking request (.writing ticket)) 2 [frame]
  | awaiting (ticket : Ticket) : Executing frame request (.asking request (.awaiting ticket)) 1 []
  | finished (answer : Answer) (h : answer.faultsRequest = false) :
      Executing frame request (.finished answer) 0 []

namespace Executing

variable {engine : Engine} {thread : Thread} {choice : Choice} {call : Call} {frame : Frame}
  {request : Request} {left : Nat} {pending : List Frame}

/-- With a link, a step brings the end nearer and writes what is written once. -/
theorem step {advance : CallAdvance Call} (h : Executing frame request call left pending)
    (hframe : engine.core.frameOf request = frame) (hflag : engine.core.initialized = true)
    (hconnected : engine.core.connected = true) (hchoice : ∀ cause, choice ≠ .fail cause)
    (hstep : call.step engine thread choice = some advance) :
    ∃ fewer later, left = fewer + 1 ∧ Executing frame request advance.next fewer later ∧
      framesOf advance.events ++ later = pending := by
  cases h with
  | executing =>
      cases choice <;> simp only [Call.step, Call.moveCore, hflag, if_true, reduceCtorEq] at hstep
      cases hstep
      exact ⟨1, [frame], rfl, .writing, rfl⟩
  | writing =>
      simp only [Call.step, Core.write, hconnected, if_true, Option.map_eq_some_iff] at hstep
      obtain ⟨inner, hwrite, rfl⟩ := hstep
      cases choice <;> cases hwrite
      · -- this is the one write
        exact ⟨0, [], rfl, .finished _ rfl, by rw [hframe]; rfl⟩
      · exact absurd rfl (hchoice _)
  | opening =>
      cases choice <;> cases hstep
      exact ⟨3, [frame], rfl, .checking _, rfl⟩
  | checking ticket =>
      simp only [Call.step, Call.ask, Option.map_eq_some_iff] at hstep
      obtain ⟨inner, hinner, rfl⟩ := hstep
      cases Exchange.step_case hinner with
      | checked => exact ⟨2, [frame], rfl, .asking ticket, rfl⟩
      | withheld _ hdown =>
          rw [hflag] at hdown
          cases hdown
  | asking ticket =>
      simp only [Call.step, Call.ask, Option.map_eq_some_iff] at hstep
      obtain ⟨inner, hinner, rfl⟩ := hstep
      cases Exchange.step_case hinner with
      | wrote =>
          refine ⟨1, [], rfl, .awaiting ticket, ?_⟩
          rw [← hframe]
          rfl
      | broke _ cause => exact absurd rfl (hchoice cause)
      | unlinked _ hnone =>
          rw [hconnected] at hnone
          cases hnone
  | awaiting ticket =>
      simp only [Call.step, Call.ask, Option.map_eq_some_iff] at hstep
      obtain ⟨inner, hinner, rfl⟩ := hstep
      cases Exchange.step_case hinner with
      | answered _ outcome =>
          exact ⟨0, [], rfl, .finished _ (by cases outcome <;> rfl), rfl⟩
      | expired => exact ⟨0, [], rfl, .finished _ rfl, rfl⟩
  | finished => cases choice <;> cases hstep

/-- Until the end, nothing stands in the way of the next step but an answer that the operation
waits for, and it need not wait for ever. -/
theorem isSome_step (h : Executing frame request call (left + 1) pending) :
    call.answer? = none ∧ ∃ choice, (∀ cause, choice ≠ .fail cause) ∧
      (call.step engine thread choice).isSome = true := by
  cases h with
  | executing =>
      refine ⟨rfl, .proceed, by simp, ?_⟩
      simp only [Call.step, Call.moveCore]
      split <;> rfl
  | writing =>
      refine ⟨rfl, .proceed, by simp, ?_⟩
      simp only [Call.step, Core.write, Option.isSome_map]
      split <;> rfl
  | opening => exact ⟨rfl, .proceed, by simp, rfl⟩
  | checking ticket =>
      refine ⟨rfl, .proceed, by simp, ?_⟩
      simp only [Call.step, Call.ask, Exchange.step, Option.isSome_map]
      split <;> rfl
  | asking ticket =>
      refine ⟨rfl, .proceed, by simp, ?_⟩
      simp only [Call.step, Call.ask, Exchange.step, Core.write, Option.isSome_map]
      split <;> rfl
  -- the time of a wait can always be over
  | awaiting ticket => exact ⟨rfl, .expire, by simp, rfl⟩

end Executing

namespace System

variable {config : EngineConfig} {connected : Bool} {system start : System} {frame : Frame}
  {request : Request} {name : Nat}

/-- The thread takes its steps while the flag is up, and nothing fails in them. -/
def Unhindered (thread : Thread) (system : System) (action : Action) : Prop :=
  action.task? = some thread.task →
    system.core.initialized = true ∧ action.isFailure = false

instance (thread : Thread) (system : System) (action : Action) :
    Decidable (Unhindered thread system action) :=
  inferInstanceAs (Decidable (_ → _))

/-- Unhindered, what was written and what is still to be written are the same all the time. -/
private theorem executing_measured (config : EngineConfig) (connected : Bool) (thread : Thread)
    (request : Request) :
    Measured thread (Reachable config connected) (Unhindered thread)
      (Executing (request.frame config.readerAddress) request) where
  keeps hreachable _ hstep := hreachable.step hstep
  nears := by
    intro system choice call left pending advance hreachable hallowed hexecuting hstep
    obtain ⟨hflag, hnofail⟩ := hallowed rfl
    have hchoice : ∀ cause, choice ≠ .fail cause := by
      rintro cause rfl
      cases hnofail
    have hframe : system.core.frameOf request = request.frame config.readerAddress := by
      rw [Core.frameOf, hreachable.config_eq]
    exact hexecuting.step hframe hflag (hreachable.connected_of_initialized hflag) hchoice hstep

private theorem executing_begin (waits : Bool) {code : UInt8} {payload : List UInt8}
    (hrequest : Request.ofRaw code payload = .ok request) :
    ∃ left ≤ 4, Executing frame request (Operation.raw waits code payload).begin left [frame] := by
  cases waits with
  | true =>
      refine ⟨4, Nat.le_refl 4, ?_⟩
      show Executing frame request (beginRaw code payload (.asking · .opening)) 4 [frame]
      rw [beginRaw, hrequest]
      exact .opening
  | false =>
      refine ⟨2, by decide, ?_⟩
      show Executing frame request (beginRaw code payload .executing) 2 [frame]
      rw [beginRaw, hrequest]
      exact .executing

private theorem step_begin_refused (hfree : system.isFree name = true) (waits : Bool)
    {code : UInt8} {payload : List UInt8} {failure : Failure}
    (hrequest : Request.ofRaw code payload = .error failure) :
    system.step (.begin name (.raw waits code payload)) =
      some (system.setCall name (.finished (.refused failure)), []) := by
  cases waits <;>
    simp only [step, hfree, if_true, Operation.raw, Bool.false_eq_true, if_false, Operation.begin,
      beginRaw, Operation.events, hrequest]

/-- What a caller who has a raw request executed can rely on, from the moment at which the
operation has begun: unhindered, the operation ends within four steps of its own and writes the
frame once; until then, a next step is possible. -/
def WritesOnce (begun : System) (name : Nat) (frame : Frame) : Prop :=
  ∀ actions last log, begun.run actions = some (last, log) →
    begun.Along (Busy (.caller name)) actions →
    begun.Along (Unhindered (.caller name)) actions →
      (∃ answer, last.answer? name = some answer ∧ answer.faultsRequest = false ∧
          begun.writtenBy (.caller name) actions = [frame]) ∨
        (last.answer? name = none ∧ begun.writtenBy (.caller name) actions <+: [frame] ∧
          stepsOf (.caller name) actions < 4 ∧
          ∃ choice, (∀ cause, choice ≠ .fail cause) ∧
            (last.step (.step (.caller name) choice)).isSome = true)

private theorem writesOnce_of_executing (hreachable : Reachable config connected start)
    (hframe : request.frame config.readerAddress = frame) {call : Call} {left : Nat}
    (hle : left ≤ 4)
    (hcall : start.call? name = some call)
    (hexecuting : Executing frame request call left [frame]) : start.WritesOnce name frame := by
  intro actions last log hrun hbusy hwell
  subst hframe
  obtain ⟨-, reached, fewer, later, hreached, hmore, hwritten, hcount⟩ :=
    (executing_measured config connected (.caller name) request).run hrun hbusy hwell hreachable
      hcall hexecuting
  have hanswer : last.answer? name = reached.answer? := by
    have hplace : last.call? name = some reached := hreached
    rw [answer?, hplace, Option.bind_some]
  rw [hanswer]
  cases fewer with
  | zero =>
      cases hmore with
      | finished answer hfault =>
          rw [List.append_nil] at hwritten
          exact .inl ⟨answer, rfl, hfault, hwritten⟩
  | succ fewer =>
      obtain ⟨hnone, choice, hchoice, hsome⟩ : reached.answer? = none ∧ ∃ choice,
          (∀ cause, choice ≠ .fail cause) ∧
            (reached.step last.engine (.caller name) choice).isSome = true := hmore.isSome_step
      refine .inr ⟨hnone, ⟨later, hwritten⟩, ?_, choice, hchoice,
        isSome_step_of_place hreached hnone hsome⟩
      show stepsOf (Thread.caller name).task actions < 4
      omega

/-- **Executing raw requests.**  In any reachable engine, a caller who is free can have any raw
request executed.

* It is refused as unsupported exactly when its code is not one of the wire.
* If its code is one of the wire and the command does not take the payload, then it is refused
  for its parameters.
* A refusal changes nothing but the answer of the caller, and nothing is shown.
* If the command takes the payload, then beginning writes nothing, and unhindered one frame is
  written before the caller has the answer, whatever the others do.  The frame is read back
  from its bytes, is for the reader of the configuration, has the code that was asked for, and
  holds parameters that fit. -/
theorem raw_executed_or_refused (hreachable : Reachable config connected system)
    (hfree : system.isFree name = true) (waits : Bool) (code : UInt8) (payload : List UInt8) :
    ∃ begun events, system.step (.begin name (.raw waits code payload)) = some (begun, events) ∧
      (code ∉ wireCodes →
        begun = system.setCall name (.finished (.refused (.unsupportedCommand code))) ∧
          events = []) ∧
      (code ∈ wireCodes → ∃ command : Command, command.code = code ∧
        (¬command.Takes payload → events = [] ∧ ∃ fault, begun =
            system.setCall name (.finished (.refused (.invalidParameter fault)))) ∧
          (command.Takes payload → framesOf events = [] ∧ ∃ frame : Frame,
              Frame.decode? frame.bytes = some frame ∧ frame.address = config.readerAddress ∧
                frame.command = code ∧ command.Fits payload frame.payload ∧
                begun.WritesOnce name frame)) := by
  rcases Request.ofRaw_case code payload with ⟨hcode, hrequest⟩ | ⟨command, hwire, rfl, hverdict⟩
  · refine ⟨_, _, step_begin_refused hfree waits hrequest, fun _ => ⟨rfl, rfl⟩, ?_⟩
    exact fun hmem => absurd hmem hcode
  · have hmem : command.code ∈ wireCodes :=
      (Command.mem_wireCodes_iff _).mpr ⟨command, hwire, rfl⟩
    -- the code is one of the wire, so that the payload decides
    generalize hrequest : Request.ofRaw command.code payload = result at hverdict
    cases hverdict with
    | refused fault htakes =>
        exact ⟨_, _, step_begin_refused hfree waits hrequest, fun h => absurd hmem h,
          fun _ => ⟨command, rfl, fun _ => ⟨rfl, fault, rfl⟩, fun h => absurd h htakes⟩⟩
    | accepted request hcommand htakes hfits =>
        have hbegin : system.step (.begin name (.raw waits command.code payload)) =
            some (system.setCall name (Operation.raw waits command.code payload).begin,
              (Operation.raw waits command.code payload).events system.core) := by
          rw [step, if_pos hfree]
        refine ⟨_, _, hbegin, fun h => absurd hmem h, fun _ => ⟨command, rfl,
          fun h => absurd htakes h, fun _ => ⟨?_, request.frame config.readerAddress,
            Frame.decode?_bytes _, rfl, ?_, ?_, ?_⟩⟩⟩
        · cases waits with
          | true => rfl
          | false =>
              simp only [Operation.raw, Bool.false_eq_true, if_false, Operation.events, hrequest]
              rfl
        · rw [Request.command_frame, hcommand]
        · rw [Request.frame, Frame.payload_make, List.take_of_length_le]
          · exact hfits
          · exact Nat.le_trans request.length_payload_le (by decide)
        · obtain ⟨left, hle, hexecuting⟩ := executing_begin waits hrequest
          exact writesOnce_of_executing (hreachable.step hbegin) rfl hle
            (call?_setCall_self system name _) hexecuting

/-- A link is opened, and the reader says who it is. -/
private def linkOpened : List Action :=
  .begin 0 .connect :: List.replicate 5 (.step (.caller 0) .proceed) ++
    arriving (.make 0xFF 0x72 [1, 2]) ++ List.replicate 2 (.step (.caller 0) .proceed)

/-- A caller asks for too much power, writes, and waits in vain. -/
private def powerAsked : List Action :=
  List.replicate 3 (.step (.caller 1) .proceed) ++ [.step (.caller 1) .expire]

theorem excessive_power_written_as_zero :
    let healthy := (initial .standard true).after linkOpened
    let begun := healthy.after [.begin 1 (.raw true 0x76 [0x30])]
    healthy.step (.begin 1 (.raw true 0x94 [])) =
        some (healthy.setCall 1 (.finished (.refused (.unsupportedCommand 0x94))), []) ∧
      begun.writtenBy (.caller 1) powerAsked = [.make 0xFF 0x76 [0, 0, 0, 0]] ∧
      Command.setOutputPower.Fits [0x30] [0, 0, 0, 0] := by
  intro healthy begun
  obtain ⟨_, hlink⟩ := run_after (initial .standard true) linkOpened (by decide +kernel)
  obtain ⟨_, hasked⟩ := run_after begun powerAsked (by decide +kernel)
  have hhealthy : Reachable .standard true healthy := ⟨linkOpened, _, hlink⟩
  have hfree : healthy.isFree 1 = true := by decide +kernel
  obtain ⟨_, _, hunsupported, hrefused, -⟩ := raw_executed_or_refused hhealthy hfree true 0x94 []
  obtain ⟨rfl, rfl⟩ := hrefused (by decide)
  obtain ⟨other, events, hbegin, -, haccepted⟩ :=
    raw_executed_or_refused hhealthy hfree true 0x76 [0x30]
  obtain rfl : begun = other := by
    show (healthy.after [.begin 1 (.raw true 0x76 [0x30])]) = other
    rw [after, run_cons, hbegin]
    rfl
  obtain ⟨command, hcode, -, htakes⟩ := haccepted (by decide)
  obtain rfl : command = .setOutputPower := Command.code_injective hcode
  obtain ⟨-, frame, -, -, -, hfits, hwrites⟩ := htakes (.inl rfl)
  have hzero : begun.writtenBy (.caller 1) powerAsked = [.make 0xFF 0x76 [0, 0, 0, 0]] := by
    decide +kernel
  refine ⟨hunsupported, hzero, ?_⟩
  rcases hwrites powerAsked _ _ hasked (by decide +kernel) (by decide +kernel) with
    ⟨_, -, -, hwritten⟩ | ⟨hnone, -⟩
  · rw [hzero] at hwritten
    cases hwritten
    exact hfits
  · exact absurd hnone (by decide +kernel)

end System

end TagInventory
