import TagInventory.Response

/-!
# What a frame says

A frame with the code of a command that travels carries a reply to this command, and no other
frame carries one (`Reply.ofFrame?_of_code`, `Reply.ofFrame?_eq_none`).  The payload of a
success has the layout of its command: `Response.Layout` lists the layouts, each with what it
says, and `Response.decode_eq_ok_iff` reads them off the decoder once and for all.  Every other
payload is an error, and `Command.refusal` says which one (`Response.decode_eq_error_iff`).
-/

namespace TagInventory

/-! ## Layouts -/

/-- What a command reports that is only acknowledged. -/
def Command.acknowledgement? : Command → Option Response
  | .reset => some .resetDone
  | .setUartBaudrate => some .uartBaudrateSet
  | .setWorkAntenna => some .workAntennaSet
  | .setOutputPower => some .outputPowerSet
  | .setFrequencyRegion => some .frequencyRegionSet
  | .resetInventoryBuffer => some .bufferReset
  | .getFirmwareVersion | .getWorkAntenna | .getOutputPower | .getFrequencyRegion | .inventory
  | .read | .getInventoryBuffer | .getAndResetInventoryBuffer | .getInventoryBufferTagCount
  | .allTagsReceived => none

/-- Whether a response says only that something was done. -/
def Response.acknowledges : Response → Bool
  | .resetDone | .uartBaudrateSet | .workAntennaSet | .outputPowerSet | .frequencyRegionSet
  | .bufferReset => true
  | .firmwareVersion .. | .workAntenna .. | .outputPower .. | .frequencyRegion ..
  | .bufferTagCount .. | .inventoryDone .. | .readTag .. | .bufferedTag .. => false

theorem Command.acknowledges_of_acknowledgement? {command : Command} {done : Response}
    (h : command.acknowledgement? = some done) : done.acknowledges = true := by
  cases command <;> cases h <;> rfl

/-- The error that a payload stands for when it reports no success of a command: its only
byte, the first one of several where the command is only acknowledged, and "command failed" for
everything else. -/
def Command.refusal (command : Command) : List UInt8 → DeviceError
  | [code] => ⟨code⟩
  | code :: _ :: _ => if command.acknowledgement?.isSome then ⟨code⟩ else .commandFail
  | [] => .commandFail

theorem Command.refusal_of_acknowledgement {command : Command} {done : Response}
    (h : command.acknowledgement? = some done) (payload : List UInt8) :
    command.refusal payload = statusError payload := by
  match payload with
  | [] | [_] => rfl
  | code :: _ :: _ =>
      rw [refusal, h]
      rfl

theorem Command.refusal_of_none {command : Command} (h : command.acknowledgement? = none)
    (payload : List UInt8) : command.refusal payload = sizeError payload := by
  match payload with
  | [] | [_] => rfl
  | code :: _ :: _ =>
      rw [refusal, h]
      rfl

theorem acknowledged_eq_ok_iff {payload : List UInt8} {done response : Response} :
    acknowledged payload done = .ok response ↔
      payload.head? = some StatusCode.commandSuccess.code ∧ done = response := by
  unfold acknowledged
  split
  · rename_i hhead
    simp [hhead]
  · rename_i hhead
    simp [hhead]

private theorem length_ne_one {payload : List UInt8} (h : ∀ code, payload = [code] → False) :
    payload.length ≠ 1 := by
  intro hone
  obtain ⟨code, rfl⟩ := List.length_eq_one_iff.mp hone
  exact h code rfl

theorem recordOr_eq_ok_iff {α : Type} {payload : List UInt8} {decoded : Option α}
    {done : α → Response} {response : Response} :
    recordOr payload decoded done = .ok response ↔
      payload.length ≠ 1 ∧ ∃ value, decoded = some value ∧ done value = response := by
  rw [recordOr.eq_def]
  split
  · simp
  · rename_i hlong
    simp [length_ne_one hlong]
  · simp

/-- What fails is a status, or no record. -/
theorem recordOr_eq_error_iff {α : Type} {payload : List UInt8} {decoded : Option α}
    {done : α → Response} {error : DeviceError} :
    recordOr payload decoded done = .error error ↔
      payload = [error.code] ∨
        payload.length ≠ 1 ∧ decoded = none ∧ error = .commandFail := by
  rw [recordOr.eq_def]
  split
  · -- one byte alone is a status, and its code is the error
    rename_i code
    constructor
    · intro h
      cases h
      exact .inl rfl
    · rintro (h | ⟨hlong, -⟩)
      · cases h
        rfl
      · exact absurd rfl hlong
  · -- longer, and read as a record: no error
    rename_i hlong
    have hne : payload ≠ [error.code] := hlong error.code
    simp [hne]
  · -- longer, but no record
    rename_i hlong
    have hne : payload ≠ [error.code] := hlong error.code
    simp [hne, length_ne_one hlong, eq_comm]

/-- What fails is reported by its only byte, or as "command failed". -/
theorem eq_sizeError_of_recordOr {α : Type} {payload : List UInt8} {decoded : Option α}
    {done : α → Response} {error : DeviceError} (h : recordOr payload decoded done = .error error) :
    error = sizeError payload := by
  rcases recordOr_eq_error_iff.mp h with hone | ⟨hlong, -, rfl⟩
  · rw [hone]
    rfl
  · match payload, hlong with
    | [], _ => rfl
    | _ :: _ :: _, _ => rfl

/-- A decoder that reads nothing from one byte alone decides what is a success. -/
theorem recordOr_of_some {α : Type} {decoder : List UInt8 → Option α} {payload : List UInt8}
    {value : α} (hone : ∀ code, decoder [code] = none) (h : decoder payload = some value)
    (done : α → Response) : recordOr payload (decoder payload) done = .ok (done value) := by
  refine recordOr_eq_ok_iff.mpr ⟨length_ne_one ?_, value, h, rfl⟩
  rintro code rfl
  rw [hone code] at h
  cases h

namespace Response

/-- The payloads that report a success of a command, with what they say. -/
inductive Layout : Command → List UInt8 → Response → Prop
  | acknowledged {command : Command} {done : Response} (rest : List UInt8)
      (h : command.acknowledgement? = some done) :
      Layout command (StatusCode.commandSuccess.code :: rest) done
  | firmwareVersion (major minor : UInt8) :
      Layout .getFirmwareVersion [major, minor] (.firmwareVersion major minor)
  | workAntenna (antenna : Antenna) : Layout .getWorkAntenna [antenna.code] (.workAntenna antenna)
  | outputPower {payload : List UInt8} {powers : Powers}
      (h : Powers.ofList? payload = some powers) :
      Layout .getOutputPower payload (.outputPower powers)
  | frequencyRegion (region first last : UInt8) :
      Layout .getFrequencyRegion [region, first, last] (.frequencyRegion region first last)
  | bufferTagCount (high low : UInt8) :
      Layout .getInventoryBufferTagCount [high, low] (.bufferTagCount (word16 high low))
  | inventoryDone {payload : List UInt8} {summary : InventorySummary}
      (h : inventorySummary? payload = some summary) :
      Layout .inventory payload (.inventoryDone summary)
  | readTag {payload : List UInt8} {tag : TagRead} (h : readRecord? payload = some tag) :
      Layout .read payload (.readTag tag)
  | bufferedTag {command : Command} {payload : List UInt8} {tag : TagRead}
      (hreads : command.readsBuffer = true) (h : bufferRecord? payload = some tag) :
      Layout command payload (.bufferedTag tag)

theorem decode_of_acknowledgement {command : Command} {done : Response}
    (h : command.acknowledgement? = some done) (payload : List UInt8) :
    decode command payload = TagInventory.acknowledged payload done := by
  cases command <;> cases h <;> rfl

theorem decode_of_readsBuffer {command : Command} (h : command.readsBuffer = true)
    (payload : List UInt8) :
    decode command payload = recordOr payload (bufferRecord? payload) .bufferedTag := by
  cases command <;> first | rfl | cases h

theorem decode_of_layout {command : Command} {payload : List UInt8} {response : Response}
    (h : Layout command payload response) : decode command payload = .ok response := by
  cases h with
  | acknowledged rest h =>
      rw [decode_of_acknowledgement h, acknowledged_eq_ok_iff]
      exact ⟨rfl, rfl⟩
  | firmwareVersion major minor => rfl
  | workAntenna antenna =>
      simp only [decode, Antenna.ofCode?_code]
  | outputPower h => simp only [decode, h]
  | frequencyRegion region first last => rfl
  | bufferTagCount high low => rfl
  -- the decoders of records find nothing in one byte alone
  | inventoryDone h => exact recordOr_of_some (fun _ => rfl) h .inventoryDone
  | readTag h => exact recordOr_of_some (fun _ => rfl) h .readTag
  | bufferedTag hreads h =>
      rw [decode_of_readsBuffer hreads]
      exact recordOr_of_some (fun _ => rfl) h .bufferedTag

private theorem layout_of_acknowledged {command : Command} {payload : List UInt8}
    {done response : Response} (hdone : command.acknowledgement? = some done)
    (h : TagInventory.acknowledged payload done = .ok response) :
    Layout command payload response := by
  obtain ⟨hhead, rfl⟩ := acknowledged_eq_ok_iff.mp h
  obtain ⟨rest, rfl⟩ := List.head?_eq_some_iff.mp hhead
  exact .acknowledged rest hdone

theorem layout_of_decode {command : Command} {payload : List UInt8} {response : Response}
    (h : decode command payload = .ok response) : Layout command payload response := by
  cases command with
  | reset | setUartBaudrate | setWorkAntenna | setOutputPower | setFrequencyRegion
  | resetInventoryBuffer => exact layout_of_acknowledged rfl h
  | getFirmwareVersion =>
      simp only [decode] at h
      split at h
      · cases h
        exact .firmwareVersion _ _
      · cases h
  | getWorkAntenna =>
      simp only [decode] at h
      split at h
      · rename_i code
        split at h
        · rename_i antenna hantenna
          cases h
          -- the layout holds the antenna, the payload its code
          rw [← Antenna.code_of_ofCode? hantenna]
          exact .workAntenna antenna
        · cases h
      · cases h
  | getOutputPower =>
      simp only [decode] at h
      split at h
      · rename_i powers hpowers
        cases h
        exact .outputPower hpowers
      · cases h
  | getFrequencyRegion =>
      simp only [decode] at h
      split at h
      · cases h
        exact .frequencyRegion _ _ _
      · cases h
  | getInventoryBufferTagCount =>
      simp only [decode] at h
      split at h
      · cases h
        exact .bufferTagCount _ _
      · cases h
  | inventory =>
      obtain ⟨-, summary, hsummary, rfl⟩ := recordOr_eq_ok_iff.mp h
      exact .inventoryDone hsummary
  | read =>
      obtain ⟨-, tag, htag, rfl⟩ := recordOr_eq_ok_iff.mp h
      exact .readTag htag
  | getInventoryBuffer | getAndResetInventoryBuffer =>
      obtain ⟨-, tag, htag, rfl⟩ := recordOr_eq_ok_iff.mp h
      exact .bufferedTag rfl htag
  | allTagsReceived => cases h

/-- A success is a payload with a layout of its command. -/
theorem decode_eq_ok_iff {command : Command} {payload : List UInt8} {response : Response} :
    decode command payload = .ok response ↔ Layout command payload response :=
  ⟨layout_of_decode, decode_of_layout⟩

/-- What goes wrong is reported as the refusal of the command. -/
theorem error_of_decode {command : Command} (hwire : command.onWire = true)
    {payload : List UInt8} {error : DeviceError} (h : decode command payload = .error error) :
    error = command.refusal payload := by
  -- these have an acknowledgement
  cases hdone : command.acknowledgement? with
  -- an acknowledgement is refused with its first byte, whatever follows
  | some done =>
      rw [decode_of_acknowledgement hdone, TagInventory.acknowledged] at h
      rw [Command.refusal_of_acknowledgement hdone]
      split at h
      · cases h
      · cases h
        rfl
  | none =>
      rw [Command.refusal_of_none hdone]
      cases command with
      | reset | setUartBaudrate | setWorkAntenna | setOutputPower | setFrequencyRegion
      | resetInventoryBuffer => cases hdone
      | getFirmwareVersion | getOutputPower | getFrequencyRegion | getInventoryBufferTagCount =>
          simp only [decode] at h
          split at h
          · cases h
          · cases h
            rfl
      | getWorkAntenna =>
          simp only [decode] at h
          split at h
          · split at h
            · cases h
            · cases h
              rfl
          · cases h
            rfl
      | inventory | read | getInventoryBuffer | getAndResetInventoryBuffer =>
          exact eq_sizeError_of_recordOr h
      | allTagsReceived => cases hwire

theorem decode_eq_error_iff {command : Command} (hwire : command.onWire = true)
    {payload : List UInt8} {error : DeviceError} :
    decode command payload = .error error ↔
      (∀ response, ¬Layout command payload response) ∧ error = command.refusal payload := by
  constructor
  · intro h
    refine ⟨?_, error_of_decode hwire h⟩
    intro response hlayout
    rw [decode_of_layout hlayout] at h
    cases h
  · rintro ⟨hnone, rfl⟩
    -- a payload is decoded or refused, and what is decoded has a layout
    cases hdecode : decode command payload with
    | ok response => exact absurd (layout_of_decode hdecode) (hnone response)
    | error error => rw [error_of_decode hwire hdecode]

theorem layout_readTag_iff {command : Command} {payload : List UInt8} {tag : TagRead} :
    Layout command payload (.readTag tag) ↔
      command = .read ∧ readRecord? payload = some tag := by
  constructor
  · intro h
    cases h with
    -- no acknowledgement is a tag
    | acknowledged rest hdone => cases Command.acknowledges_of_acknowledgement? hdone
    | readTag hread => exact ⟨rfl, hread⟩
  · rintro ⟨rfl, hread⟩
    exact .readTag hread

theorem layout_bufferedTag_iff {command : Command} {payload : List UInt8} {tag : TagRead} :
    Layout command payload (.bufferedTag tag) ↔
      command.readsBuffer = true ∧ bufferRecord? payload = some tag := by
  constructor
  · intro h
    cases h with
    -- no acknowledgement is a tag
    | acknowledged rest hdone => cases Command.acknowledges_of_acknowledgement? hdone
    | bufferedTag hreads hread => exact ⟨hreads, hread⟩
  · rintro ⟨hreads, hread⟩
    exact .bufferedTag hreads hread

/-- The commands that a count or a record can answer.  Nothing is said of other responses. -/
def Answers (response : Response) (command : Command) : Prop :=
  match response with
  | .bufferTagCount _ => command = .getInventoryBufferTagCount
  | .readTag _ => command = .read
  | .bufferedTag _ => command.readsBuffer = true
  | _ => True

theorem answers_of_decode {command : Command} {payload : List UInt8}
    {response : Response} (h : decode command payload = .ok response) :
    response.Answers command := by
  cases layout_of_decode h with
  | acknowledged rest hdone => cases command <;> cases hdone <;> trivial
  | bufferedTag hreads => exact hreads
  | _ => trivial

theorem eq_bufferedTag {command : Command} (hreads : command.readsBuffer = true)
    {payload : List UInt8} {response : Response}
    (h : decode command payload = .ok response) : ∃ tag, response = .bufferedTag tag := by
  rw [decode_of_readsBuffer hreads] at h
  obtain ⟨-, tag, -, rfl⟩ := recordOr_eq_ok_iff.mp h
  exact ⟨tag, rfl⟩

end Response

/-! ## Replies -/

namespace Reply

/-- A frame with the opcode of a command of the wire carries a reply to it. -/
theorem ofFrame?_of_code {frame : Frame} {command : Command} (hwire : command.onWire = true)
    (hcode : frame.command = command.code) :
    ofFrame? frame = some ⟨command, Response.decode command frame.payload⟩ := by
  simp [ofFrame?, hcode, hwire]

/-- A reply answers the command whose opcode its frame has. -/
theorem command_eq_iff {frame : Frame} {reply : Reply} (h : ofFrame? frame = some reply)
    (command : Command) : reply.command = command ↔ frame.command = command.code := by
  unfold ofFrame? at h
  split at h
  · rename_i answered hcode
    split at h
    · cases h
      -- the reply is filed under the command that the opcode is looked up to
      show answered = command ↔ _
      rw [← Command.code_of_ofCode? hcode]
      exact ⟨fun heq => by rw [heq], Command.code_injective⟩
    · cases h
  · cases h

theorem onWire_command {frame : Frame} {reply : Reply} (h : ofFrame? frame = some reply) :
    reply.command.onWire = true := by
  unfold ofFrame? at h
  split at h
  · split at h
    · rename_i hwire
      cases h
      exact hwire
    · cases h
  · cases h

theorem ofFrame?_eq_none {frame : Frame}
    (h : ∀ command : Command, command.onWire = true → frame.command ≠ command.code) :
    ofFrame? frame = none := by
  cases hreply : ofFrame? frame with
  | none => rfl
  | some reply =>
      have hcode := (command_eq_iff hreply reply.command).mp rfl
      exact absurd hcode (h reply.command (onWire_command hreply))

theorem result_eq {frame : Frame} {reply : Reply} (h : ofFrame? frame = some reply) :
    reply.result = Response.decode reply.command frame.payload := by
  unfold ofFrame? at h
  split at h
  · split at h
    · exact Option.some.inj h ▸ rfl
    · exact absurd h (Option.some_ne_none _).symm
  · exact absurd h (Option.some_ne_none _).symm

/-- A response answers a command that it can be read from. -/
theorem answers {frame : Frame} {reply : Reply} {response : Response}
    (h : ofFrame? frame = some reply) (hresult : reply.result = .ok response) :
    response.Answers reply.command := by
  rw [result_eq h] at hresult
  exact Response.answers_of_decode hresult

/-- Frames with the opcode of a command of the wire are replies. -/
theorem ofFrame?_isSome {frame : Frame} {command : Command} (hwire : command.onWire = true)
    (h : frame.command = command.code) : (ofFrame? frame).isSome := by
  simp [ofFrame?, h, hwire]

end Reply

end TagInventory
