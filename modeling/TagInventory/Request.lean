import TagInventory.Failure
import TagInventory.Frame
import TagInventory.Radio

/-!
# Requests

A `Request` is a command with the parameters that it takes.  Writing a request never
fails: powers and frequencies that the reader would refuse are replaced by values
that it accepts.

`Request.ofRaw` reads a command code and a bare payload as a request and says why
when it is none.
-/

namespace TagInventory

/-- A command to the reader with its parameters. -/
inductive Request
  | reset
  | setUartBaudrate (rate : Baudrate)
  | getFirmwareVersion
  | setWorkAntenna (antenna : Antenna)
  | getWorkAntenna
  | setOutputPower (powers : Powers)
  | getOutputPower
  | setFrequencyRegion (region first last : UInt8)
  | getFrequencyRegion
  | inventory (rounds : UInt8)
  | read (bank : MemoryBank) (wordAddress wordCount : UInt8)
  | getInventoryBuffer
  | getAndResetInventoryBuffer
  | getInventoryBufferTagCount
  | resetInventoryBuffer
  deriving DecidableEq, Repr

namespace Request

def command : Request → Command
  | reset => .reset
  | setUartBaudrate _ => .setUartBaudrate
  | getFirmwareVersion => .getFirmwareVersion
  | setWorkAntenna _ => .setWorkAntenna
  | getWorkAntenna => .getWorkAntenna
  | setOutputPower _ => .setOutputPower
  | getOutputPower => .getOutputPower
  | setFrequencyRegion .. => .setFrequencyRegion
  | getFrequencyRegion => .getFrequencyRegion
  | inventory _ => .inventory
  | read .. => .read
  | getInventoryBuffer => .getInventoryBuffer
  | getAndResetInventoryBuffer => .getAndResetInventoryBuffer
  | getInventoryBufferTagCount => .getInventoryBufferTagCount
  | resetInventoryBuffer => .resetInventoryBuffer

def payload : Request → List UInt8
  | setUartBaudrate rate => [rate.code]
  | setWorkAntenna antenna => [antenna.code]
  | setOutputPower powers => powers.accepted.toList
  | setFrequencyRegion region first last =>
    let band := Band.normalize region first last
    [band.region.code, band.first, band.last]
  | inventory rounds => [rounds]
  | read bank wordAddress wordCount => [bank.code, wordAddress, wordCount]
  | _ => []

/-- The frame that carries the request to the reader at `address`. -/
def frame (address : UInt8) (request : Request) : Frame :=
  .make address request.command.code request.payload

/-- The request for a command of the wire with a bare payload.  Missing parameters of
inventory and read have fixed values, one power counts for every antenna, and a region may
come with a single frequency. -/
def ofPayload (command : Command) (bytes : List UInt8) : Except Failure Request :=
  let unknown (parameter : Parameter) (code : UInt8) : Failure :=
    .invalidParameter (.unknownCode command parameter code)
  match command, bytes with
  | .reset, [] => .ok reset
  | .setUartBaudrate, [code] =>
    match Baudrate.ofCode? code with
    | some rate => .ok (setUartBaudrate rate)
    | none => .error (unknown .baudrate code)
  | .getFirmwareVersion, [] => .ok getFirmwareVersion
  | .setWorkAntenna, [code] =>
    match Antenna.ofCode? code with
    | some antenna => .ok (setWorkAntenna antenna)
    | none => .error (unknown .antenna code)
  | .getWorkAntenna, [] => .ok getWorkAntenna
  | .setOutputPower, [power] => .ok (setOutputPower (.uniform power))
  | .setOutputPower, [first, second, third, fourth] =>
    .ok (setOutputPower ⟨first, second, third, fourth⟩)
  | .getOutputPower, [] => .ok getOutputPower
  | .setFrequencyRegion, [region, first, last] => .ok (setFrequencyRegion region first last)
  | .setFrequencyRegion, [region, only] => .ok (setFrequencyRegion region only only)
  | .getFrequencyRegion, [] => .ok getFrequencyRegion
  | .inventory, [] => .ok (inventory 0)
  | .inventory, [rounds] => .ok (inventory rounds)
  | .read, [] => .ok (read .epc 0 1)
  | .read, [code] =>
    match MemoryBank.ofCode? code with
    | some bank => .ok (read bank 0 1)
    | none => .error (unknown .memoryBank code)
  | .getInventoryBuffer, [] => .ok getInventoryBuffer
  | .getAndResetInventoryBuffer, [] => .ok getAndResetInventoryBuffer
  | .getInventoryBufferTagCount, [] => .ok getInventoryBufferTagCount
  | .resetInventoryBuffer, [] => .ok resetInventoryBuffer
  | .allTagsReceived, _ => .error (.unsupportedCommand command.code)
  | command, bytes => .error (.invalidParameter (.payloadSize command bytes.length))

/-- The request for a command code with a bare payload. -/
def ofRaw (code : UInt8) (bytes : List UInt8) : Except Failure Request :=
  match Command.ofCode? code with
  | some command => ofPayload command bytes
  | none => .error (.unsupportedCommand code)

@[simp] theorem command_frame (address : UInt8) (request : Request) :
    (request.frame address).command = request.command.code := rfl

@[simp] theorem address_frame (address : UInt8) (request : Request) :
    (request.frame address).address = address := rfl

/-- A request is always about a command of the wire. -/
@[simp] theorem onWire_command (request : Request) : request.command.onWire = true := by
  cases request <;> rfl

/-- No payload is cut. -/
theorem length_payload_le (request : Request) : request.payload.length ≤ 4 := by
  cases request <;> simp [payload, Powers.toList]

end Request

end TagInventory
