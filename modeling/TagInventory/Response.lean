import TagInventory.Frame
import TagInventory.Notice
import TagInventory.Response.Record

/-!
# Responses

A received frame of a known command is a `Reply`: the command that it answers, with
either a success of that command or the error that the reader reports.

A reader reports an error by a payload of one status byte.  A payload that has neither
the layout of its command nor that form counts as the status "command failed"
(`statusError`); acknowledgements look at their first byte alone (`acknowledged`).
-/

namespace TagInventory

/-- What a reader says when it has carried out a command. -/
inductive Response
  | resetDone
  | uartBaudrateSet
  | firmwareVersion (major minor : UInt8)
  | workAntennaSet
  | workAntenna (antenna : Antenna)
  | outputPowerSet
  | outputPower (powers : Powers)
  | frequencyRegionSet
  | frequencyRegion (region first last : UInt8)
  | inventoryDone (summary : InventorySummary)
  | readTag (tag : TagRead)
  | bufferedTag (tag : TagRead)
  | bufferTagCount (count : UInt16)
  | bufferReset
  deriving DecidableEq, Repr

/-! ### Errors in payloads -/

/-- The error of a payload that is not a success: its only byte, when it has one, and
"command failed" otherwise. -/
def sizeError : List UInt8 → DeviceError
  | [code] => ⟨code⟩
  | _ => .commandFail

/-- The error of a payload whose first byte is a status. -/
def statusError : List UInt8 → DeviceError
  | code :: _ => ⟨code⟩
  | [] => .commandFail

/-- An acknowledgement: the first byte says whether the command succeeded. -/
def acknowledged (payload : List UInt8) (done : Response) : Except DeviceError Response :=
  if payload.head? = some StatusCode.commandSuccess.code then .ok done
  else .error (statusError payload)

/-- A payload with a layout.  One byte alone is a status, whatever the layout. -/
def recordOr {α : Type} (payload : List UInt8) (decoded : Option α) (done : α → Response) :
    Except DeviceError Response :=
  match payload, decoded with
  | [code], _ => .error ⟨code⟩
  | _, some value => .ok (done value)
  | _, none => .error .commandFail

/-! ### Decoding -/

/-- Reads the payload of a response to `command`. -/
def Response.decode (command : Command) (payload : List UInt8) : Except DeviceError Response :=
  match command with
  | .reset => acknowledged payload .resetDone
  | .setUartBaudrate => acknowledged payload .uartBaudrateSet
  | .setWorkAntenna => acknowledged payload .workAntennaSet
  | .setOutputPower => acknowledged payload .outputPowerSet
  | .setFrequencyRegion => acknowledged payload .frequencyRegionSet
  | .resetInventoryBuffer => acknowledged payload .bufferReset
  | .getFirmwareVersion =>
    match payload with
    | [major, minor] => .ok (.firmwareVersion major minor)
    | _ => .error (sizeError payload)
  | .getWorkAntenna =>
    match payload with
    | [code] =>
      match Antenna.ofCode? code with
      | some antenna => .ok (.workAntenna antenna)
      | none => .error ⟨code⟩
    | _ => .error (sizeError payload)
  | .getOutputPower =>
    match Powers.ofList? payload with
    | some powers => .ok (.outputPower powers)
    | none => .error (sizeError payload)
  | .getFrequencyRegion =>
    match payload with
    | [region, first, last] => .ok (.frequencyRegion region first last)
    | _ => .error (sizeError payload)
  | .getInventoryBufferTagCount =>
    match payload with
    | [high, low] => .ok (.bufferTagCount (word16 high low))
    | _ => .error (sizeError payload)
  | .inventory => recordOr payload (inventorySummary? payload) .inventoryDone
  | .read => recordOr payload (readRecord? payload) .readTag
  | .getInventoryBuffer | .getAndResetInventoryBuffer =>
    recordOr payload (bufferRecord? payload) .bufferedTag
  | .allTagsReceived => .error .commandFail

/-- The answer to a command. -/
structure Reply where
  command : Command
  result : Except DeviceError Response
  deriving Repr

namespace Reply

/-- The reply that a frame carries.  Frames of unknown codes, and of the code that never
travels, carry none. -/
def ofFrame? (frame : Frame) : Option Reply :=
  match Command.ofCode? frame.command with
  | some command =>
    if command.onWire then some ⟨command, Response.decode command frame.payload⟩ else none
  | none => none

def error? (reply : Reply) : Option DeviceError :=
  match reply.result with
  | .ok _ => none
  | .error error => some error

def tag? (reply : Reply) : Option TagRead :=
  match reply.result with
  | .ok (.readTag tag) => some tag
  | .ok (.bufferedTag tag) => some tag
  | _ => none

/-- What decoding a reply leaves in the log, after the frame itself. -/
def notices (reply : Reply) : List Notice :=
  match reply.result with
  | .ok (.bufferedTag tag) => [.bufferRecordDecoded tag]
  | .ok (.readTag tag) => [.readRecordDecoded tag]
  | .ok _ => []
  | .error error => [.responseFailed reply.command error]

end Reply

/-- What reading a valid frame leaves in the log. -/
def Frame.notices (frame : Frame) : List Notice :=
  match Command.ofCode? frame.command with
  | none => [.undeclaredCommand frame.command]
  | some command =>
    .responseReceived command frame.bytes ::
      match Reply.ofFrame? frame with
      | some reply => reply.notices
      | none => [.neverSent command]

end TagInventory
