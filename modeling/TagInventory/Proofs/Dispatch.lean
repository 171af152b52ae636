import TagInventory.Handler
import TagInventory.Proofs.RawRequest
import TagInventory.Proofs.Reply

/-!
# One response, one call

A frame with the code of a command that travels makes one call of one method, whatever handler
it is dispatched to: the method of this command when the payload has a layout of it, and
`Handler.error` with this command when it has none.  No other frame makes a call.

Which method belongs to which command is said by `Handler.ofReplies`, whose methods turn every
call back into the reply that it is for.  No reply is confused with another one on the way
(`Handler.call_ofReplies`), so a handler that writes its calls down has written the reply of the
frame, and the session is what the calls to its own handler have made of it.
-/

namespace TagInventory

namespace Handler

variable {State : Type}

/-! ## Methods and replies -/

/-- A success calls the method of the command that it answers. -/
theorem call_ofReplies_of_layout {command : Command} {payload : List UInt8} {response : Response}
    (h : Response.Layout command payload response) (take : Reply → State → State) :
    (ofReplies take).call ⟨command, .ok response⟩ = take ⟨command, .ok response⟩ := by
  cases h with
  | acknowledged rest hdone => cases command <;> cases hdone <;> rfl
  | firmwareVersion | workAntenna | outputPower | frequencyRegion | bufferTagCount
  | inventoryDone | readTag | bufferedTag => rfl

/-- The reply of a frame calls the method of its command, or `error` with this command. -/
theorem call_ofReplies {frame : Frame} {reply : Reply} (h : Reply.ofFrame? frame = some reply)
    (take : Reply → State → State) : (ofReplies take).call reply = take reply := by
  have hresult := Reply.result_eq h
  obtain ⟨command, result⟩ := reply
  cases result with
  | error error => rfl
  | ok response => exact call_ofReplies_of_layout (Response.layout_of_decode hresult.symm) take

/-! ## Frames that answer a command, and others -/

theorem dispatch_of_reply {frame : Frame} {reply : Reply} (h : Reply.ofFrame? frame = some reply)
    (handler : Handler State) (state : State) :
    handler.dispatch frame state = (some reply.command, handler.call reply state) := by
  rw [dispatch, h]

theorem dispatch_recorder {frame : Frame} {reply : Reply}
    (h : Reply.ofFrame? frame = some reply) (calls : List Reply) :
    recorder.dispatch frame calls = (some reply.command, calls ++ [reply]) := by
  rw [dispatch_of_reply h, recorder, call_ofReplies h]

/-- A frame with the code of no command that travels is told to nobody. -/
theorem dispatch_of_not_mem {frame : Frame} (h : frame.command ∉ wireCodes)
    (handler : Handler State) (state : State) : handler.dispatch frame state = (none, state) := by
  have hnone : Reply.ofFrame? frame = none := by
    refine Reply.ofFrame?_eq_none ?_
    intro command hwire hcode
    exact h ((Command.mem_wireCodes_iff frame.command).mpr ⟨command, hwire, hcode.symm⟩)
  rw [dispatch, hnone]

/-- The session takes a frame over as the handler that keeps it. -/
theorem dispatch_session (frame : Frame) (session : Session) :
    (Session.handler.dispatch frame session).2 = session.applyFrame frame := by
  cases hreply : Reply.ofFrame? frame with
  | none => simp only [dispatch, Session.applyFrame, hreply]
  | some reply =>
      rw [dispatch_of_reply hreply, Session.applyFrame, hreply, Session.handler,
        call_ofReplies hreply]

/-! ## Every frame -/

/-- **One response, one call.**

* A frame with one of the fifteen codes of the wire answers the command with this code, and
  makes one call, the same for every handler: the method of this command for a success, and
  `error` with this command otherwise.  It is a success exactly when the payload has a layout of
  the command.  The error is the only byte of the payload; where there are more, it is the first
  of them if the command is only acknowledged; and it is "command failed" in all other cases.
* Any other frame answers no command and makes no call.
* The session is kept by such a handler. -/
theorem one_call (frame : Frame) :
    (frame.command ∈ wireCodes → ∃ command result,
      (command.onWire = true ∧ command.code = frame.command) ∧
      (∀ (State : Type) (handler : Handler State) (state : State),
        handler.dispatch frame state = (some command, handler.call ⟨command, result⟩ state)) ∧
      (∀ calls, recorder.dispatch frame calls = (some command, calls ++ [⟨command, result⟩])) ∧
      (∀ response, result = .ok response ↔
        Response.Layout command frame.payload response) ∧
      ∀ error, result = .error error ↔
        (∀ response, ¬Response.Layout command frame.payload response) ∧
          error = command.refusal frame.payload) ∧
    (frame.command ∉ wireCodes → ∀ (State : Type) (handler : Handler State) (state : State),
      handler.dispatch frame state = (none, state)) ∧
    ∀ session, (Session.handler.dispatch frame session).2 = session.applyFrame frame := by
  refine ⟨?_, fun h State handler state => dispatch_of_not_mem h handler state,
    dispatch_session frame⟩
  intro hmem
  obtain ⟨command, hwire, hcode⟩ := (Command.mem_wireCodes_iff frame.command).mp hmem
  have hreply := Reply.ofFrame?_of_code hwire hcode.symm
  -- the one call is the reply of the frame, whoever handles it
  refine ⟨command, _, ⟨hwire, hcode⟩,
    fun State handler state => dispatch_of_reply hreply handler state, ?_,
    fun response => Response.decode_eq_ok_iff, fun error => Response.decode_eq_error_iff hwire⟩
  intro calls
  rw [dispatch_of_reply hreply, recorder, call_ofReplies hreply]

/-- A reset that is refused by two bytes, and a frame with the code that never travels. -/
theorem one_call_of_refusedReset :
    let refused := Frame.make broadcastAddress 0x70 [0x22, 0x10]
    let foreign := Frame.make broadcastAddress 0x94 [0x10]
    refused.command ∈ wireCodes ∧ foreign.command ∉ wireCodes ∧
      recorder.dispatch refused [] = (some .reset, [⟨.reset, .error ⟨0x22⟩⟩]) ∧
      recorder.dispatch foreign [] = (none, []) := by
  intro refused foreign
  have hmem : refused.command ∈ wireCodes := by decide
  have hforeign : foreign.command ∉ wireCodes := by decide
  obtain ⟨command, result, ⟨-, hcode⟩, -, hcalls, hok, herror⟩ := (one_call refused).1 hmem
  obtain rfl : command = .reset := Command.code_injective (hcode.trans rfl)
  have hresult : result = .error ⟨0x22⟩ := by
    cases result with
    | ok response =>
        have hdecode := Response.decode_eq_ok_iff.mpr ((hok response).mp rfl)
        cases hdecode
    | error error => rw [((herror error).mp rfl).2]; rfl
  refine ⟨hmem, hforeign, ?_, (one_call foreign).2.1 hforeign _ recorder []⟩
  rw [hcalls, hresult, List.nil_append]

end Handler

end TagInventory
