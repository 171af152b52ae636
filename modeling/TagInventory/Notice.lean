import TagInventory.Control
import TagInventory.Failure
import TagInventory.Radio
import TagInventory.Report
import TagInventory.Tag
import TagInventory.Text.Quoted

/-!
# Notices

The log of the library.  A `Notice` says what happened; how severe it is, which part of
the library it comes from and how it reads are functions of it, so that the wording of
the log is in this module alone.
-/

namespace TagInventory

/-- How much a notice matters, from the most to the least. -/
inductive Severity
  | error
  | warn
  | info
  | debug
  | trace
  deriving DecidableEq, Repr

namespace Severity

def name : Severity → String
  | .error => "ERROR"
  | .warn => "WARN"
  | .info => "INFO"
  | .debug => "DEBUG"
  | .trace => "TRACE"

/-- The position on the scale: the more verbose, the higher. -/
def verbosity : Severity → Nat
  | .error => 1
  | .warn => 2
  | .info => 3
  | .debug => 4
  | .trace => 5

end Severity

inductive Origin
  | protocol
  | receiver
  | tags
  | waits
  | observer
  | serial
  | engine
  | program
  deriving DecidableEq, Repr

/-- The name under which the log is filtered. -/
def Origin.name : Origin → String
  | .protocol => "robocooler_rfid::protocol"
  | .receiver => "robocooler_rfid::dispatcher"
  | .tags => "robocooler_rfid::tags"
  | .waits => "robocooler_rfid::pending"
  | .observer => "robocooler_rfid::notify"
  | .serial => "robocooler_rfid::serial"
  | .engine => "robocooler_rfid::engine"
  | .program => "rfid_reader"

/-- Something worth a line in the log. -/
inductive Notice
  -- Requests and responses
  | requestBuilt (command : Command) (frame : List UInt8)
  | responseReceived (command : Command) (frame : List UInt8)
  | undeclaredCommand (code : UInt8)
  | neverSent (command : Command)
  | responseFailed (command : Command) (error : DeviceError)
  | bufferRecordDecoded (tag : TagRead)
  | readRecordDecoded (tag : TagRead)
  -- The byte stream and the session
  | noiseDiscarded (bytes : List UInt8)
  | badFrameSize (bytes : List UInt8)
  | corruptFrame (bytes : List UInt8)
  | firmwareReported (major minor : UInt8)
  | frequencyRegionReported (region first last : UInt8)
  -- Tag views
  | accumulatedCleared (size : Nat)
  | occurrencesCleared (size : Nat)
  | tagRecorded (position : Nat) (key : String) (seen : UInt32)
  | cyclesCompared (previous current : Nat)
  | tagsAdded (keys : List String)
  | tagsRemoved (keys : List String)
  | snapshotSaved (size : Nat)
  -- Waits
  | waitExpired (command : Command)
  -- Reports
  | changeReported (removed added : List String)
  | contentsReported (size : Nat)
  | contentsEntry (key : String) (seen : UInt32)
  | occurrencesReported (size : Nat)
  | occurrencesEntry (key : String) (seen : UInt32)
  -- The link
  | deviceOpened (path : String) (baud : UInt32)
  | openFailed (path : String) (failure : Failure)
  | flushFailed (cause : String)
  | writeFailed (cause : String)
  | readFailed (cause : String)
  | readerStopped
  | readerNotStarted (cause : String)
  | firmwareAccepted (major minor : UInt8)
  | handshakeFailed
  -- Inventory runs
  | runStarted
  | runCompleted
  | idlePeriod
  | pollStarted (attempt : Nat)
  | bufferCounted (count : UInt16)
  | bufferEmpty
  | bufferReadEnded (received : Nat) (announced : UInt16)
  | runFailed (failure : Failure)
  | runReleased
  | contentsWithheld
  | settingsStale
  -- Control
  | controlReceived (event : ControlEvent)
  | controlRefused (event : ControlEvent) (failure : Failure)
  | controlStopped
  -- The program
  | deviceNotReady (path : String)
  | resetFailed (failure : Failure)
  | inventoryFailed (failure : Failure)
  | timerStarted (milliseconds : UInt64)
  | timerEnded
  | waitingForInput
  | inputFailed (cause : String)
  deriving DecidableEq, Repr

namespace Notice

def origin : Notice → Origin
  | requestBuilt .. | responseReceived .. | undeclaredCommand _ | neverSent _
  | responseFailed .. | bufferRecordDecoded _ | readRecordDecoded _ => .protocol
  | noiseDiscarded _ | badFrameSize _ | corruptFrame _ | firmwareReported ..
  | frequencyRegionReported .. => .receiver
  | accumulatedCleared _ | occurrencesCleared _ | tagRecorded .. | cyclesCompared ..
  | tagsAdded _ | tagsRemoved _ | snapshotSaved _ => .tags
  | waitExpired _ => .waits
  | changeReported .. | contentsReported _ | contentsEntry .. | occurrencesReported _
  | occurrencesEntry .. => .observer
  | deviceOpened .. => .serial
  | openFailed .. | flushFailed _ | writeFailed _ | readFailed _ | readerStopped
  | readerNotStarted _ | firmwareAccepted .. | handshakeFailed | runStarted | runCompleted
  | idlePeriod | pollStarted _ | bufferCounted _ | bufferEmpty | bufferReadEnded .. | runFailed _
  | runReleased | contentsWithheld | settingsStale | controlReceived _ | controlRefused ..
  | controlStopped => .engine
  | deviceNotReady _ | resetFailed _ | inventoryFailed _ | timerStarted _ | timerEnded
  | waitingForInput | inputFailed _ => .program

/-- How much the notice matters.  A buffer read that brought another number of tags than
announced is an error. -/
def severity : Notice → Severity
  | responseReceived .. | bufferRecordDecoded _ | readRecordDecoded _ | accumulatedCleared _
  | occurrencesCleared _ | tagRecorded .. | cyclesCompared .. | snapshotSaved _ => .trace
  | requestBuilt .. | firmwareReported .. | frequencyRegionReported .. | deviceOpened ..
  | readerStopped | runStarted | runCompleted | idlePeriod | pollStarted _ | bufferCounted _
  | runReleased | contentsWithheld | controlReceived _ | controlStopped => .debug
  | tagsAdded _ | tagsRemoved _ | changeReported .. | contentsReported _ | contentsEntry ..
  | occurrencesReported _ | occurrencesEntry .. | firmwareAccepted .. | timerStarted _
  | timerEnded | waitingForInput => .info
  | undeclaredCommand _ | neverSent _ | noiseDiscarded _ | waitExpired _ | flushFailed _
  | settingsStale | controlRefused .. => .warn
  | responseFailed .. | badFrameSize _ | corruptFrame _ | openFailed .. | writeFailed _
  | readFailed _ | readerNotStarted _ | handshakeFailed | bufferEmpty | runFailed _
  | deviceNotReady _ | resetFailed _ | inventoryFailed _ | inputFailed _ => .error
  | bufferReadEnded received announced =>
    if received = announced.toNat then .debug else .error

def text : Notice → String
  | requestBuilt command frame => command.name ++ " -> " ++ hexText frame
  | responseReceived command frame => command.name ++ " <- " ++ hexText frame
  | undeclaredCommand code => "Undeclared recv command: 0x" ++ lowerHex code
  | neverSent command => command.name ++ " is never sent by the reader"
  | responseFailed command error => command.name ++ ": " ++ error.message
  | bufferRecordDecoded tag =>
    "tag " ++ tag.key ++ " count=" ++ toString tag.announced ++ " rssi=" ++ toString tag.rssi ++
      " ant=" ++ toString tag.antenna ++ " inv=" ++ toString tag.inventoryCount
  | readRecordDecoded tag => "read " ++ tag.key ++ " data=" ++ hexText tag.data
  | noiseDiscarded bytes => "Discarding noise: " ++ hexText bytes
  | badFrameSize bytes => "Bad frame length: " ++ hexText bytes
  | corruptFrame bytes => "Corrupt frame: " ++ hexText bytes
  | firmwareReported major minor =>
    "firmware version " ++ toString major ++ "." ++ toString minor
  | frequencyRegionReported region first last =>
    "frequency region " ++ toString region ++ " [" ++ shortFrequencyText first ++ " MHz .. " ++
      shortFrequencyText last ++ " MHz]"
  | accumulatedCleared size => "Clear accumulated buf: " ++ toString size
  | occurrencesCleared size => "Clear probability buf: " ++ toString size
  | tagRecorded position key seen =>
    "[" ++ toString position ++ "]: read: " ++ key ++ ": " ++ toString seen
  | cyclesCompared previous current =>
    "old=" ++ toString previous ++ "; cur=" ++ toString current
  | tagsAdded keys => "ADD: " ++ quotedList keys ++ " add=" ++ toString keys.length
  | tagsRemoved keys => "REM: " ++ quotedList keys ++ " rem=" ++ toString keys.length
  | snapshotSaved size => "Save cur buf: " ++ toString size
  | waitExpired command => "\"" ++ command.name ++ "\" is locked"
  | changeReported removed added =>
    "products out: " ++ quotedList removed ++ "; in: " ++ quotedList added
  | contentsReported size => "ACM: " ++ toString size ++ " tags"
  | contentsEntry key seen => "  " ++ key ++ ":" ++ toString seen
  | occurrencesReported size => "PROB: " ++ toString size ++ " tags"
  | occurrencesEntry key seen => "  " ++ key ++ " : " ++ toString seen
  | deviceOpened path baud => "opened " ++ path ++ " at " ++ toString baud ++ " baud"
  | openFailed path failure => "can't open " ++ path ++ ": " ++ failure.message
  | flushFailed cause => "can't flush reader input: " ++ cause
  | writeFailed cause => "serial write failed: " ++ cause
  | readFailed cause => "serial read failed: " ++ cause
  | readerStopped => "reader thread stopped"
  | readerNotStarted cause => "reader thread failed to start: " ++ cause
  | firmwareAccepted major minor => "reader firmware " ++ toString major ++ "." ++ toString minor
  | handshakeFailed => "reader did not answer the firmware query"
  | runStarted => "Inventory thread start."
  | runCompleted => "Inventory thread complete."
  | idlePeriod => "Periodic timeout is active."
  | pollStarted attempt => "STEP: " ++ toString attempt
  | bufferCounted count => "In buffer " ++ toString count ++ " tag counts"
  | bufferEmpty => "Tags count is 0."
  | bufferReadEnded received announced =>
    "Received tags count is " ++ toString received ++ " [" ++ toString announced ++ "]."
  | runFailed failure => "inventory stopped: " ++ failure.message
  | runReleased => "Reset with join."
  | contentsWithheld => "inventory is running, contents not reported"
  | settingsStale => "antenna settings may be stale"
  | controlReceived event => "control event " ++ event.text
  | controlRefused event failure => event.text ++ " refused: " ++ failure.message
  | controlStopped => "control thread stopped"
  | deviceNotReady path => "Can't init RFID on " ++ path
  | resetFailed failure => "reset failed: " ++ failure.message
  | inventoryFailed failure => "inventory failed: " ++ failure.message
  | timerStarted milliseconds => "Timer test: " ++ toString milliseconds ++ " ms"
  | timerEnded => "Stop by timer"
  | waitingForInput => "Polling until stdin closes"
  | inputFailed cause => "stdin read failed: " ++ cause

def line (notice : Notice) : String :=
  notice.severity.name ++ " " ++ notice.text

end Notice

/-- What an observer that only writes to the log makes of a report. -/
def Report.notices : Report → List Notice
  | .change removed added => [.changeReported removed added]
  | .contents counts =>
    .contentsReported counts.length :: counts.map fun entry => .contentsEntry entry.1 entry.2
  | .occurrences counts =>
    .occurrencesReported counts.length :: counts.map fun entry => .occurrencesEntry entry.1 entry.2

end TagInventory
