import TagInventory.Response

/-!
# Sessions

The session remembers what the reader reported last, field by field, together with the
tags and the error that nobody has fetched yet.  It is a fold of `Session.apply` over the
replies in the order in which they came.
-/

namespace TagInventory

/-- What is known of the reader from its replies. -/
structure Session where
  settings : RadioSettings
  /-- The count of the last answer about the size of the buffer. -/
  tagCount : UInt16
  /-- Whether the last reply was an error. -/
  failed : Bool
  /-- The newest error that was not fetched yet. -/
  lastError : Option (Command × DeviceError)
  firmware : Option (UInt8 × UInt8)
  workAntenna : Option Antenna
  lastInventory : Option InventorySummary
  /-- Tags that were not fetched yet, in order of arrival. -/
  tagReads : List (Command × TagRead)
  deriving DecidableEq, Repr

namespace Session

def initial : Session where
  settings := .initial
  tagCount := 0
  failed := false
  lastError := none
  firmware := none
  workAntenna := none
  lastInventory := none
  tagReads := []

/-- Takes over what a successful response to `command` says. -/
def record (session : Session) (command : Command) (response : Response) : Session :=
  let session := { session with failed := false }
  match response with
  | .firmwareVersion major minor => { session with firmware := some (major, minor) }
  | .workAntenna antenna => { session with workAntenna := some antenna }
  | .outputPower powers => { session with settings := { session.settings with powers := powers } }
  | .frequencyRegion region first last =>
    { session with
      settings := { session.settings with
        region := region, startFrequency := first, endFrequency := last } }
  | .inventoryDone summary => { session with lastInventory := some summary }
  | .readTag tag => { session with tagReads := session.tagReads ++ [(command, tag)] }
  | .bufferedTag tag => { session with tagReads := session.tagReads ++ [(command, tag)] }
  | .bufferTagCount count => { session with tagCount := count }
  | .resetDone | .uartBaudrateSet | .workAntennaSet | .outputPowerSet | .frequencyRegionSet
  | .bufferReset => session

def apply (session : Session) (reply : Reply) : Session :=
  match reply.result with
  | .ok response => session.record reply.command response
  | .error error => { session with failed := true, lastError := some (reply.command, error) }

/-- Takes over what a frame carries, if it carries a reply. -/
def applyFrame (session : Session) (frame : Frame) : Session :=
  match Reply.ofFrame? frame with
  | some reply => session.apply reply
  | none => session

/-- The newest error, which is forgotten by fetching it. -/
def takeLastError (session : Session) : Option (Command × DeviceError) × Session :=
  (session.lastError, { session with lastError := none })

/-- The tags since the last fetch, which are forgotten by fetching them. -/
def takeTagReads (session : Session) : List (Command × TagRead) × Session :=
  (session.tagReads, { session with tagReads := [] })

def setTagCount (session : Session) (count : UInt16) : Session :=
  { session with tagCount := count }

def noticesOf (frame : Frame) : List Notice :=
  match Reply.ofFrame? frame with
  | some ⟨_, .ok (.firmwareVersion major minor)⟩ => [.firmwareReported major minor]
  | some ⟨_, .ok (.frequencyRegion region first last)⟩ =>
    [.frequencyRegionReported region first last]
  | _ => []

end Session

end TagInventory
