import TagInventory.Frame

/-!
# Readers that answer from a script

A scripted reader stands at the far end of a link and answers requests by their command
code.  The answers for a code are used one after the other, the last of them for ever;
what has no answers is met with silence.
-/

namespace TagInventory

/-- What a scripted reader does when it receives a request. -/
inductive ScriptedReply
  /-- It sends bytes, or none. -/
  | bytes (answer : List UInt8)
  | refuseWrite
  | breakReads (cause : String)
  deriving DecidableEq, Repr

/-- A reader with a script, and the link to it. -/
structure ScriptedReader where
  replies : List (UInt8 × List ScriptedReply)
  /-- Bytes that were sent and not read yet. -/
  line : List UInt8
  /-- Why every further read fails. -/
  readFailure : Option String
  /-- Why the link cannot be emptied. -/
  flushFailure : Option String
  /-- Requests received, the newest first. -/
  received : List Frame
  deriving DecidableEq, Repr

namespace ScriptedReader

def writeFailure : String := "device unplugged"

def ofReplies (replies : List (UInt8 × List ScriptedReply)) : ScriptedReader where
  replies := replies
  line := []
  readFailure := none
  flushFailure := none
  received := []

/-- The answer to a command, and the script without it when others follow. -/
def nextReply (reader : ScriptedReader) (command : UInt8) :
    Option ScriptedReply × ScriptedReader :=
  match reader.replies.lookup command with
  | some (reply :: next :: later) =>
    (some reply,
      { reader with
        replies := (command, next :: later) :: reader.replies.filter fun entry =>
          entry.1 != command })
  | some [reply] => (some reply, reader)
  | _ => (none, reader)

/-- The reader after a request was written to it, and why writing failed, if it did.  A
request that cannot be written uses up its answer all the same. -/
def write (reader : ScriptedReader) (frame : Frame) : Option String × ScriptedReader :=
  let (reply, reader) := reader.nextReply frame.command
  let reached := { reader with received := frame :: reader.received }
  match reply with
  | some .refuseWrite => (some writeFailure, reader)
  | some (.breakReads cause) => (none, { reached with readFailure := some cause })
  | some (.bytes answer) => (none, { reached with line := reader.line ++ answer })
  | none => (none, reached)

def flush (reader : ScriptedReader) : Except String ScriptedReader :=
  match reader.flushFailure with
  | some cause => .error cause
  | none => .ok { reader with line := [] }

def inject (reader : ScriptedReader) (bytes : List UInt8) : ScriptedReader :=
  { reader with line := reader.line ++ bytes }

end ScriptedReader

end TagInventory
