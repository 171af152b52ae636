/-!
# Commands

The vocabulary of the reader: fifteen commands that travel on the wire, and one
name for an event that never does.  A response carries the code of the command
that it answers.
-/

namespace TagInventory

/-- What a frame asks for or answers.  `allTagsReceived` names the moment at which a
buffer read is complete and is never sent by either side. -/
inductive Command
  | reset
  | setUartBaudrate
  | getFirmwareVersion
  | setWorkAntenna
  | getWorkAntenna
  | setOutputPower
  | getOutputPower
  | setFrequencyRegion
  | getFrequencyRegion
  /-- Collect the tags in range into the buffer of the reader. -/
  | inventory
  | read
  /-- Stream the buffer. -/
  | getInventoryBuffer
  /-- Stream the buffer and empty it. -/
  | getAndResetInventoryBuffer
  | getInventoryBufferTagCount
  | resetInventoryBuffer
  /-- The tags streamed by a buffer read have reached the announced count. -/
  | allTagsReceived
  deriving DecidableEq, Repr

namespace Command

/-- All commands, by code. -/
def all : List Command :=
  [.reset, .setUartBaudrate, .getFirmwareVersion,
   .setWorkAntenna, .getWorkAntenna, .setOutputPower,
   .getOutputPower, .setFrequencyRegion, .getFrequencyRegion,
   .inventory, .read, .getInventoryBuffer,
   .getAndResetInventoryBuffer, .getInventoryBufferTagCount, .resetInventoryBuffer,
   .allTagsReceived]

def code : Command → UInt8
  | .reset => 0x70
  | .setUartBaudrate => 0x71
  | .getFirmwareVersion => 0x72
  | .setWorkAntenna => 0x74
  | .getWorkAntenna => 0x75
  | .setOutputPower => 0x76
  | .getOutputPower => 0x77
  | .setFrequencyRegion => 0x78
  | .getFrequencyRegion => 0x79
  | .inventory => 0x80
  | .read => 0x81
  | .getInventoryBuffer => 0x90
  | .getAndResetInventoryBuffer => 0x91
  | .getInventoryBufferTagCount => 0x92
  | .resetInventoryBuffer => 0x93
  | .allTagsReceived => 0x94

def ofCode? (code : UInt8) : Option Command :=
  all.find? fun command => command.code == code

def name : Command → String
  | .reset => "reset"
  | .setUartBaudrate => "set_uart_baudrate"
  | .getFirmwareVersion => "get_firmware_version"
  | .setWorkAntenna => "set_work_antenna"
  | .getWorkAntenna => "get_work_antenna"
  | .setOutputPower => "set_output_power"
  | .getOutputPower => "get_output_power"
  | .setFrequencyRegion => "set_frequency_region"
  | .getFrequencyRegion => "get_frequency_region"
  | .inventory => "inventory"
  | .read => "read"
  | .getInventoryBuffer => "get_inventory_buffer"
  | .getAndResetInventoryBuffer => "get_and_reset_inventory_buffer"
  | .getInventoryBufferTagCount => "get_inventory_buffer_tag_count"
  | .resetInventoryBuffer => "reset_inventory_buffer"
  | .allTagsReceived => "all_tags_received"

def ofName? (name : String) : Option Command :=
  all.find? fun command => command.name == name

/-- Whether frames carry the command. -/
def onWire : Command → Bool
  | .allTagsReceived => false
  | _ => true

/-- The answers to these commands are records of buffered tags. -/
def readsBuffer : Command → Bool
  | .getInventoryBuffer | .getAndResetInventoryBuffer => true
  | _ => false

@[simp] theorem ofCode?_code (command : Command) : ofCode? command.code = some command := by
  cases command <;> rfl

theorem code_of_ofCode? {code : UInt8} {command : Command} (h : ofCode? code = some command) :
    command.code = code := by
  simpa using List.find?_some h

/-- No two commands share a code. -/
theorem code_injective {first second : Command} (h : first.code = second.code) :
    first = second := by
  have := congrArg ofCode? h
  simpa using this

end Command

end TagInventory
