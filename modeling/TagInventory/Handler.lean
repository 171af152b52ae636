import TagInventory.Session

/-!
# Handlers

An application that wants to hear what the reader says has a method for each kind of response
and one for errors.  `Handler.dispatch` tells it what a frame says; methods that are left out do
nothing.

The session is kept in this way (`Session.handler`).
-/

namespace TagInventory

/-- What an application does when it is told something, each time to a state of its own. -/
structure Handler (State : Type) where
  /-- A command was refused, or answered by what has no layout of it. -/
  error : Command → DeviceError → State → State := fun _ _ => id
  resetDone : State → State := id
  uartBaudrateSet : State → State := id
  firmwareVersion : UInt8 → UInt8 → State → State := fun _ _ => id
  workAntennaSet : State → State := id
  workAntenna : Antenna → State → State := fun _ => id
  outputPowerSet : State → State := id
  outputPower : Powers → State → State := fun _ => id
  frequencyRegionSet : State → State := id
  frequencyRegion : UInt8 → UInt8 → UInt8 → State → State := fun _ _ _ => id
  inventoryDone : InventorySummary → State → State := fun _ => id
  readTag : TagRead → State → State := fun _ => id
  /-- The record can come from either of the two commands that stream the buffer. -/
  bufferedTag : Command → TagRead → State → State := fun _ _ => id
  bufferTagCount : UInt16 → State → State := fun _ => id
  bufferReset : State → State := id

namespace Handler

variable {State : Type}

/-- Calls the one method that a reply is for. -/
def call (handler : Handler State) (reply : Reply) : State → State :=
  match reply.result with
  | .error error => handler.error reply.command error
  | .ok .resetDone => handler.resetDone
  | .ok .uartBaudrateSet => handler.uartBaudrateSet
  | .ok (.firmwareVersion major minor) => handler.firmwareVersion major minor
  | .ok .workAntennaSet => handler.workAntennaSet
  | .ok (.workAntenna antenna) => handler.workAntenna antenna
  | .ok .outputPowerSet => handler.outputPowerSet
  | .ok (.outputPower powers) => handler.outputPower powers
  | .ok .frequencyRegionSet => handler.frequencyRegionSet
  | .ok (.frequencyRegion region first last) => handler.frequencyRegion region first last
  | .ok (.inventoryDone summary) => handler.inventoryDone summary
  | .ok (.readTag tag) => handler.readTag tag
  | .ok (.bufferedTag tag) => handler.bufferedTag reply.command tag
  | .ok (.bufferTagCount count) => handler.bufferTagCount count
  | .ok .bufferReset => handler.bufferReset

/-- Tells a handler what a frame says.  The command that the frame answers is returned. -/
def dispatch (handler : Handler State) (frame : Frame) (state : State) : Option Command × State :=
  match Reply.ofFrame? frame with
  | some reply => (some reply.command, handler.call reply state)
  | none => (none, state)

/-- Treats every call as the reply that its method is for. -/
def ofReplies (take : Reply → State → State) : Handler State where
  error command error := take ⟨command, .error error⟩
  resetDone := take ⟨.reset, .ok .resetDone⟩
  uartBaudrateSet := take ⟨.setUartBaudrate, .ok .uartBaudrateSet⟩
  firmwareVersion major minor := take ⟨.getFirmwareVersion, .ok (.firmwareVersion major minor)⟩
  workAntennaSet := take ⟨.setWorkAntenna, .ok .workAntennaSet⟩
  workAntenna antenna := take ⟨.getWorkAntenna, .ok (.workAntenna antenna)⟩
  outputPowerSet := take ⟨.setOutputPower, .ok .outputPowerSet⟩
  outputPower powers := take ⟨.getOutputPower, .ok (.outputPower powers)⟩
  frequencyRegionSet := take ⟨.setFrequencyRegion, .ok .frequencyRegionSet⟩
  frequencyRegion region first last :=
    take ⟨.getFrequencyRegion, .ok (.frequencyRegion region first last)⟩
  inventoryDone summary := take ⟨.inventory, .ok (.inventoryDone summary)⟩
  readTag tag := take ⟨.read, .ok (.readTag tag)⟩
  bufferedTag command tag := take ⟨command, .ok (.bufferedTag tag)⟩
  bufferTagCount count := take ⟨.getInventoryBufferTagCount, .ok (.bufferTagCount count)⟩
  bufferReset := take ⟨.resetInventoryBuffer, .ok .bufferReset⟩

/-- Writes every call down. -/
def recorder : Handler (List Reply) :=
  ofReplies fun reply calls => calls ++ [reply]

end Handler

/-- Remembers what was said last. -/
def Session.handler : Handler Session :=
  .ofReplies fun reply session => session.apply reply

end TagInventory
