import TagInventory.Engine.Config
import TagInventory.Receiver
import TagInventory.Request
import TagInventory.Tag.Views
import TagInventory.WaitTable

/-!
# The shared state of an engine

What the threads of an engine have in common, apart from the runs: the link and its
flags, the receiver, the tag views, the open waits and the tunables.  Every definition of
this module is one critical section.

`Core.receive` takes over one byte from the reader.  A byte that completes a reply
records the tag that the reply brings, ends the wait for all tags when the announced
number is reached, and signals the command that was answered.  `Core.intake` keeps the
signals that were given on the way.
-/

namespace TagInventory

/-- What the threads share. -/
structure Core where
  config : EngineConfig
  /-- Whether there is a link at all. -/
  connected : Bool
  /-- Whether requests are sent. -/
  initialized : Bool
  /-- Whether the reader thread goes on. -/
  reading : Bool
  /-- Whether there is a reader thread. -/
  readerRunning : Bool
  inventoryActive : Bool
  receiver : Receiver
  tags : TagViews
  waits : WaitTable
  pollCount : UInt64
  closeReadAttempts : UInt64
  pollInterval : UInt64
  deriving DecidableEq

inductive Event
  | wrote (frame : Frame)
  | reported (report : Report)
  | noted (notice : Notice)
  deriving DecidableEq, Repr

namespace Core

/-- The state before a link is used. -/
def initial (config : EngineConfig) (connected : Bool) : Core where
  config := config
  connected := connected
  initialized := false
  reading := false
  readerRunning := false
  inventoryActive := false
  receiver := .initial
  tags := .initial
  waits := .initial
  pollCount := config.pollCount
  closeReadAttempts := config.closeReadAttempts
  pollInterval := config.pollInterval

/-- The link failed: nothing is sent or read any more. -/
def markFailed (core : Core) : Core :=
  { core with initialized := false, reading := false }

def frameOf (core : Core) (request : Request) : Frame :=
  request.frame core.config.readerAddress

def session (core : Core) : Session :=
  core.receiver.session

def setSession (core : Core) (session : Session) : Core :=
  { core with receiver := { core.receiver with session := session } }

def register (core : Core) (command : Command) : Ticket × Core :=
  let (ticket, waits) := core.waits.register command
  (ticket, { core with waits := waits })

def release (core : Core) (ticket : Ticket) : Core :=
  { core with waits := core.waits.release ticket }

/-- Ends the wait for a command with an outcome, if anybody waits. -/
def signal (core : Core) (command : Command) (outcome : WaitOutcome) : Core :=
  { core with waits := (core.waits.signal command outcome).2 }

/-- The operation on the views, and what it adds to the log. -/
def tagOperation (core : Core) (operation : TagOperation) : Core × List Event :=
  ({ core with tags := core.tags.after operation },
    (core.tags.noticesOf operation).map .noted)

end Core

/-! ### Bytes from the reader -/

/-- One attempt to end the wait for a command. -/
structure Signal where
  command : Command
  outcome : WaitOutcome
  deriving DecidableEq, Repr

/-- The shared state while a byte is taken over, with the signals that were given so far,
whether they reached a wait or not, in order. -/
structure Intake where
  core : Core
  signals : List Signal

namespace Intake

/-- Ends the wait for a command with an outcome, if anybody waits. -/
def signal (intake : Intake) (command : Command) (outcome : WaitOutcome) : Intake where
  core := intake.core.signal command outcome
  signals := intake.signals ++ [⟨command, outcome⟩]

/-- Takes over one decoded tag.  A buffer record that brings the number of tags received
to the announced one, which is not zero, completes the wait for all tags. -/
def recordTag (intake : Intake) (command : Command) (read : TagRead) : Intake :=
  let tags := intake.core.tags.record read
  let intake := { intake with core := { intake.core with tags := tags } }
  if command.readsBuffer ∧ read.announced ≠ 0 ∧ read.announced.toNat = tags.received then
    intake.signal .allTagsReceived .completed
  else intake

/-- Signals the command of a reply: with the error that the session just recorded for it,
or as completed.  A failed buffer read also ends the wait for all tags. -/
def answer (intake : Intake) (command : Command) (error : Option (Command × DeviceError)) :
    Intake :=
  match error with
  | some (failed, error) =>
    if failed = command then
      let intake :=
        if command = .getAndResetInventoryBuffer then intake.signal .allTagsReceived .completed
        else intake
      intake.signal command (.rejected error)
    else intake.signal command .completed
  | none => intake.signal command .completed

end Intake

namespace Core

/-- Takes over a byte. -/
def intake (core : Core) (byte : UInt8) : Intake :=
  match core.receiver.replyTo? byte with
  | none => ⟨{ core with receiver := core.receiver.push byte }, []⟩
  | some reply =>
    let core := { core with receiver := core.receiver.push byte }
    let (reads, session) := core.session.takeTagReads
    let intake := reads.foldl (fun intake entry => intake.recordTag entry.1 entry.2)
      (⟨core.setSession session, []⟩ : Intake)
    let (error, session) := intake.core.session.takeLastError
    { intake with core := intake.core.setSession session }.answer reply.command error

def receive (core : Core) (byte : UInt8) : Core :=
  (core.intake byte).core

/-- What taking over a byte adds to the log. -/
def receiveEvents (core : Core) (byte : UInt8) : List Event :=
  let received := (core.receiver.noticesOf byte).map .noted
  let recorded :=
    ((core.receiver.replyTo? byte).bind Reply.tag?).toList.flatMap fun tag =>
      (core.tags.noticesOf (.record tag)).map .noted
  received ++ recorded

def receiveAll (core : Core) (bytes : List UInt8) : Core :=
  bytes.foldl receive core

end Core

end TagInventory
