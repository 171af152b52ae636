import TagInventory.Proofs.Dispatch

/-!
# Responses of a fixed size

Every response but a tag record has a layout of a fixed size, or of two (`Command.layoutSizes`).
A payload of another size is to be refused as a whole.  Five commands keep to that.  The
acknowledgements and the inventory summary are read from the front of the payload instead, so
that a payload whose front has the layout is taken for a success, whatever follows it
(`Command.Overlong`).  These payloads are the only ones of a wrong size that are
(`Handler.fixed_size`); all others are refused and leave what the session knows as it was.

## Strategy

A layout is known from the front of its size (`Response.layout_take_iff`), and a payload without
that front has none (`Response.layout_iff_front`).  The rest is what `Proofs.Dispatch` says of
every frame.
-/

namespace TagInventory

/-! ## Sizes of layouts -/

namespace Command

/-- The sizes of the layouts of a command; tag records have no fixed size. -/
def layoutSizes : Command → List Nat
  | .reset | .setUartBaudrate | .setWorkAntenna | .setOutputPower | .setFrequencyRegion
  | .resetInventoryBuffer | .getWorkAntenna => [1]
  | .getFirmwareVersion | .getInventoryBufferTagCount => [2]
  | .getOutputPower => [1, 4]
  | .getFrequencyRegion => [3]
  | .inventory => [9]
  | .read | .getInventoryBuffer | .getAndResetInventoryBuffer | .allTagsReceived => []

/-- Whether the layout is read from the front of the payload, whatever follows it. -/
def readsFront (command : Command) : Bool :=
  command.acknowledgement?.isSome || command = .inventory

/-- A payload that is longer than the layout that it begins with, where nobody looks at the end. -/
def Overlong (command : Command) (payload : List UInt8) : Prop :=
  command.readsFront = true ∧ ∃ size ∈ command.layoutSizes, size < payload.length ∧
    ∃ response, Response.Layout command (payload.take size) response

theorem readsFront_iff {command : Command} :
    command.readsFront = true ↔
      (∃ done, command.acknowledgement? = some done) ∨ command = .inventory := by
  rw [readsFront, Bool.or_eq_true, Option.isSome_iff_exists, decide_eq_true_eq]

theorem layoutSizes_of_acknowledgement {command : Command} {done : Response}
    (h : command.acknowledgement? = some done) : command.layoutSizes = [1] := by
  cases command <;> first | rfl | cases h

theorem eq_of_mem_layoutSizes {command : Command} (h : command.readsFront = true)
    {first second : Nat} (hfirst : first ∈ command.layoutSizes)
    (hsecond : second ∈ command.layoutSizes) : first = second := by
  rcases readsFront_iff.mp h with ⟨done, hdone⟩ | rfl
  · rw [layoutSizes_of_acknowledgement hdone, List.mem_singleton] at hfirst hsecond
    rw [hfirst, hsecond]
  · exact (List.mem_singleton.mp hfirst).trans (List.mem_singleton.mp hsecond).symm

theorem onWire_of_layoutSizes {command : Command} (h : command.layoutSizes ≠ []) :
    command.onWire = true := by
  cases command <;> first | rfl | exact absurd rfl h

theorem readsBuffer_of_layoutSizes {command : Command} (h : command.layoutSizes ≠ []) :
    command.readsBuffer = false := by
  cases command <;> first | rfl | exact absurd rfl h

end Command

theorem inventorySummary?_take (payload : List UInt8) :
    inventorySummary? (payload.take 9) = inventorySummary? payload := by
  match payload with
  | [] | [_] | [_, _] | [_, _, _] | [_, _, _, _] | [_, _, _, _, _] | [_, _, _, _, _, _]
  | [_, _, _, _, _, _, _] | [_, _, _, _, _, _, _, _] => rfl
  | _ :: _ :: _ :: _ :: _ :: _ :: _ :: _ :: _ :: _ => rfl

theorem le_length_of_inventorySummary? {payload : List UInt8} {summary : InventorySummary}
    (h : inventorySummary? payload = some summary) : 9 ≤ payload.length := by
  unfold inventorySummary? at h
  split at h
  · exact Nat.le_add_left 9 _
  · cases h

namespace Response

variable {command : Command} {payload : List UInt8} {response : Response}

/-- An acknowledgement is its first byte. -/
theorem layout_acknowledged_iff {done : Response} (hdone : command.acknowledgement? = some done) :
    Layout command payload response ↔
      payload.head? = some StatusCode.commandSuccess.code ∧ done = response := by
  rw [← decode_eq_ok_iff, decode_of_acknowledgement hdone, acknowledged_eq_ok_iff]

theorem layout_inventory_iff :
    Layout .inventory payload response ↔
      ∃ summary, inventorySummary? payload = some summary ∧ .inventoryDone summary = response := by
  constructor
  · intro h
    cases h with
    | acknowledged rest hdone => cases hdone
    | inventoryDone h => exact ⟨_, h, rfl⟩
    | bufferedTag hreads => cases hreads
  · rintro ⟨summary, h, rfl⟩
    exact .inventoryDone h

theorem layout_take_iff (hfront : command.readsFront = true) {size : Nat}
    (hsize : size ∈ command.layoutSizes) :
    Layout command (payload.take size) response ↔ Layout command payload response := by
  rcases Command.readsFront_iff.mp hfront with ⟨done, hdone⟩ | rfl
  · rw [Command.layoutSizes_of_acknowledgement hdone, List.mem_singleton] at hsize
    rw [layout_acknowledged_iff hdone, layout_acknowledged_iff hdone, hsize, List.head?_take,
      if_neg Nat.one_ne_zero]
  · obtain rfl := List.mem_singleton.mp hsize
    rw [layout_inventory_iff, layout_inventory_iff, inventorySummary?_take]

/-- Nothing shorter than its layout is a success, and nothing longer unless it is read from the
front. -/
theorem exists_size_of_layout (hfixed : command.layoutSizes ≠ [])
    (h : Layout command payload response) :
    ∃ size ∈ command.layoutSizes, size ≤ payload.length ∧
      (size = payload.length ∨ command.readsFront = true) := by
  cases h with
  | acknowledged rest hdone =>
      have hfront := Command.readsFront_iff.mpr (.inl ⟨_, hdone⟩)
      rw [Command.layoutSizes_of_acknowledgement hdone]
      exact ⟨1, List.mem_singleton_self 1, Nat.le_add_left 1 _, .inr hfront⟩
  | inventoryDone h =>
      exact ⟨9, List.mem_singleton_self 9, le_length_of_inventorySummary? h, .inr rfl⟩
  | outputPower h =>
      rcases Powers.ofList?_eq_some_iff.mp h with ⟨power, rfl, -⟩ | rfl
      · exact ⟨1, by decide, Nat.le_refl 1, .inl rfl⟩
      · exact ⟨4, by decide, Nat.le_refl 4, .inl rfl⟩
  | firmwareVersion | workAntenna | frequencyRegion | bufferTagCount =>
      exact ⟨_, List.mem_singleton_self _, Nat.le_refl _, .inl rfl⟩
  -- the tags have no fixed size
  | readTag => exact absurd rfl hfixed
  | bufferedTag hreads =>
      rw [Command.readsBuffer_of_layoutSizes hfixed] at hreads
      cases hreads

/-- A payload is a success if it is a front of the right size with the layout of the command, and
ends there unless only the front is read. -/
theorem layout_iff_front (hfixed : command.layoutSizes ≠ []) :
    Layout command payload response ↔
      ∃ size ∈ command.layoutSizes, Layout command (payload.take size) response ∧
        (size = payload.length ∨ size < payload.length ∧ command.readsFront = true) := by
  constructor
  · intro h
    obtain ⟨size, hsize, hle, hend⟩ := exists_size_of_layout hfixed h
    rcases Nat.eq_or_lt_of_le hle with heq | hlt
    · refine ⟨size, hsize, ?_, .inl heq⟩
      rwa [heq, List.take_length]
    · have hfront := hend.resolve_left (Nat.ne_of_lt hlt)
      exact ⟨size, hsize, (layout_take_iff hfront hsize).mpr h, .inr ⟨hlt, hfront⟩⟩
  · rintro ⟨size, hsize, h, rfl | ⟨-, hfront⟩⟩
    · rwa [List.take_length] at h
    · exact (layout_take_iff hfront hsize).mp h

theorem length_not_mem_of_overlong (h : command.Overlong payload) :
    payload.length ∉ command.layoutSizes := by
  obtain ⟨hfront, size, hsize, hlt, -⟩ := h
  exact fun hmem => Nat.ne_of_lt hlt (Command.eq_of_mem_layoutSizes hfront hsize hmem)

theorem overlong_iff (hfixed : command.layoutSizes ≠ []) :
    command.Overlong payload ↔
      payload.length ∉ command.layoutSizes ∧ ∃ response, Layout command payload response := by
  constructor
  · intro h
    refine ⟨length_not_mem_of_overlong h, ?_⟩
    obtain ⟨hfront, size, hsize, -, response, hlayout⟩ := h
    exact ⟨response, (layout_take_iff hfront hsize).mp hlayout⟩
  · rintro ⟨hlength, response, hlayout⟩
    obtain ⟨size, hsize, hfront, heq | ⟨hlt, hreads⟩⟩ := (layout_iff_front hfixed).mp hlayout
    · exact absurd (heq ▸ hsize) hlength
    · exact ⟨hreads, size, hsize, hlt, response, hfront⟩

/-- What is no tag record has a layout of a fixed size. -/
theorem layoutSizes_ne_nil (h : Layout command payload response)
    (htag : (⟨command, .ok response⟩ : Reply).tag? = none) : command.layoutSizes ≠ [] := by
  cases h with
  | acknowledged rest hdone =>
      rw [Command.layoutSizes_of_acknowledgement hdone]
      exact List.cons_ne_nil 1 []
  | readTag | bufferedTag => cases htag
  | _ => exact List.cons_ne_nil _ _

end Response

/-! ## Frames -/

namespace Handler

/-- What a refused payload leaves in the session. -/
theorem dispatch_session_of_error {frame : Frame} {command : Command} {error : DeviceError}
    (hreply : Reply.ofFrame? frame = some ⟨command, .error error⟩) (session : Session) :
    (Session.handler.dispatch frame session).2 =
      { session with failed := true, lastError := some (command, error) } := by
  rw [dispatch_session, Session.applyFrame, hreply]
  rfl

/-- **Fixed sizes.**  A frame with the code of a command whose layouts have fixed sizes makes one
call, for every handler and every payload:

* the payload has one of the sizes if it is a success, unless it is too long and begins with the
  layout of a command that is read from the front;
* these payloads are successes that say what their front says;
* any other payload of a wrong size is refused, and leaves the session as it was but for the
  error.

No other frame makes the call of a success but with a tag record. -/
theorem fixed_size (frame : Frame) :
    (∀ command, command.layoutSizes ≠ [] → frame.command = command.code → ∃ result,
      (∀ (State : Type) (handler : Handler State) (state : State),
        handler.dispatch frame state = (some command, handler.call ⟨command, result⟩ state)) ∧
      (∀ calls, recorder.dispatch frame calls = (some command, calls ++ [⟨command, result⟩])) ∧
      ((∀ response, result = .ok response → frame.payload.length ∈ command.layoutSizes) ↔
        ¬command.Overlong frame.payload) ∧
      (command.Overlong frame.payload → ∃ size ∈ command.layoutSizes, ∃ response,
        result = .ok response ∧ Response.Layout command (frame.payload.take size) response) ∧
      (frame.payload.length ∉ command.layoutSizes → ¬command.Overlong frame.payload →
        result = .error (command.refusal frame.payload) ∧
          ∀ session, (Session.handler.dispatch frame session).2 =
            { session with
              failed := true, lastError := some (command, command.refusal frame.payload) })) ∧
    ∀ reply ∈ (recorder.dispatch frame []).2, reply.error? = none → reply.tag? = none →
      reply.command.layoutSizes ≠ [] ∧ frame.command = reply.command.code := by
  constructor
  · intro command hfixed hcode
    have hwire := Command.onWire_of_layoutSizes hfixed
    have hreply := Reply.ofFrame?_of_code hwire hcode
    refine ⟨_, fun State handler state => dispatch_of_reply hreply handler state,
      dispatch_recorder hreply, ?_, ?_, ?_⟩
    · simp only [Response.decode_eq_ok_iff, Response.overlong_iff hfixed]
      constructor
      · rintro hall ⟨hlength, response, hlayout⟩
        exact hlength (hall response hlayout)
      · intro hnone response hlayout
        -- a success of a wrong size is what "overlong" says
        by_contra hlength
        exact hnone ⟨hlength, response, hlayout⟩
    · rintro ⟨hfront, size, hsize, -, response, hlayout⟩
      refine ⟨size, hsize, response, ?_, hlayout⟩
      exact Response.decode_of_layout ((Response.layout_take_iff hfront hsize).mp hlayout)
    · intro hlength hnone
      have herror : Response.decode command frame.payload =
          .error (command.refusal frame.payload) := by
        refine (Response.decode_eq_error_iff hwire).mpr ⟨fun response hlayout => ?_, rfl⟩
        exact hnone ((Response.overlong_iff hfixed).mpr ⟨hlength, response, hlayout⟩)
      refine ⟨herror, dispatch_session_of_error ?_⟩
      rw [hreply, herror]
  · intro reply hmem herror htag
    cases hreply : Reply.ofFrame? frame with
    | none =>
        rw [dispatch, hreply] at hmem
        cases hmem
    | some told =>
        rw [dispatch_recorder hreply] at hmem
        obtain rfl := List.mem_singleton.mp hmem
        refine ⟨?_, (Reply.command_eq_iff hreply reply.command).mp rfl⟩
        have hresult := Reply.result_eq hreply
        -- a call that reports neither an error nor a tag is a success of a fixed size
        obtain ⟨command, result⟩ := reply
        cases result with
        | error error => cases herror
        | ok response =>
            exact Response.layoutSizes_ne_nil (Response.layout_of_decode hresult.symm) htag

/-- A firmware version with a third byte is refused. -/
theorem fixed_size_of_longVersion :
    let frame := Frame.make broadcastAddress Command.getFirmwareVersion.code [7, 2, 1]
    Command.getFirmwareVersion.layoutSizes ≠ [] ∧
      frame.command = Command.getFirmwareVersion.code ∧
      frame.payload.length ∉ Command.getFirmwareVersion.layoutSizes ∧
      ¬Command.getFirmwareVersion.Overlong frame.payload ∧
      recorder.dispatch frame [] =
        (some .getFirmwareVersion, [⟨.getFirmwareVersion, .error .commandFail⟩]) ∧
      (Session.handler.dispatch frame .initial).2.firmware = none := by
  intro frame
  have hfixed : Command.getFirmwareVersion.layoutSizes ≠ [] := by decide
  have hlength : frame.payload.length ∉ Command.getFirmwareVersion.layoutSizes := by decide
  have hwhole : ¬Command.getFirmwareVersion.Overlong frame.payload := by
    rintro ⟨hfront, -⟩
    cases hfront
  obtain ⟨result, -, hcalls, -, -, hrefused⟩ := (fixed_size frame).1 .getFirmwareVersion hfixed rfl
  obtain ⟨rfl, hsession⟩ := hrefused hlength hwhole
  refine ⟨hfixed, rfl, hlength, hwhole, hcalls [], ?_⟩
  rw [hsession]
  rfl

/-- An inventory summary with one byte too many, and a reset that succeeds by its first byte and
not by its second, are taken for successes. -/
theorem overlong_succeeds :
    let summary := Frame.make broadcastAddress Command.inventory.code (List.replicate 10 0)
    let reset := Frame.make broadcastAddress Command.reset.code [0x10, 0x22]
    summary.payload.length ∉ Command.inventory.layoutSizes ∧
      recorder.dispatch summary [] =
        (some .inventory, [⟨.inventory, .ok (.inventoryDone ⟨0, 0, 0, 0⟩)⟩]) ∧
      (Session.handler.dispatch summary .initial).2.lastInventory = some ⟨0, 0, 0, 0⟩ ∧
      reset.payload.length ∉ Command.reset.layoutSizes ∧
      recorder.dispatch reset [] = (some .reset, [⟨.reset, .ok .resetDone⟩]) := by
  refine ⟨by decide, rfl, by decide, by decide, rfl⟩

end Handler

end TagInventory
