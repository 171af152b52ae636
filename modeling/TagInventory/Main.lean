import TagInventory.CommandLine.LogFilter
import TagInventory.CommandLine.Procedure
import TagInventory.Engine.System

/-!
# The program

Carries out the procedure of the command line on a real device.  The threads of the
engine are steps of `System.step`, taken in turn by one loop; a thread of its own only
reads the device.

The device is expected to be set up: raw, at its speed, and with reads that end after a
while when nothing comes.
-/

namespace TagInventory

/-- A device and what was read from it.  Reading blocks, so it has a handle of its own. -/
structure SerialLink where
  output : IO.FS.Handle
  input : IO.FS.Handle
  inbox : IO.Ref (List UInt8)
  failure : IO.Ref (Option String)
  wanted : IO.Ref Bool

structure Machine where
  system : System
  link : Option SerialLink
  filter : LogFilter
  stamps : List (Task × Nat)

namespace Machine

def log (filter : LogFilter) (notice : Notice) : IO Unit := do
  if filter.admits notice then IO.eprintln notice.fullLine

def showEvent (machine : Machine) : Event → IO Unit
  | .wrote _ => pure ()
  | .reported report => report.notices.forM (log machine.filter)
  | .noted notice => log machine.filter notice

def act? (machine : Machine) (action : Action) : IO (Option Machine) :=
  match machine.system.step action with
  | some (system, events) => do
    events.forM machine.showEvent
    pure (some { machine with system := system })
  | none => pure none

def take? (machine : Machine) (task : Task) (choice : Choice) : IO (Option Machine) := do
  let now ← IO.monoMsNow
  let next ← machine.act? (.step task choice)
  pure <| next.map fun next =>
    { next with stamps := (task, now) :: next.stamps.filter fun entry => entry.1 != task }

/-- Writes a frame to the device; the result says how that went. -/
def write (machine : Machine) (frame : Frame) : IO Choice :=
  match machine.link with
  | some link =>
    try
      link.output.write ⟨frame.bytes.toArray⟩
      link.output.flush
      pure .proceed
    catch error => pure (.fail (toString error))
  | none => pure .proceed

def dropInput (machine : Machine) : IO Unit :=
  match machine.link with
  | some link => link.inbox.set []
  | none => pure ()

/-- Takes the next step of a thread, if it has one. -/
def stepTask? (machine : Machine) (task : Task) : IO (Option Machine) := do
  match machine.system.demand task with
  | .nothing => machine.take? task .proceed
  | .write frame => machine.take? task (← machine.write frame)
  | .flush =>
    machine.dropInput
    machine.take? task .proceed
  | .timer milliseconds =>
    match ← machine.take? task .proceed with
    | some next => pure (some next)
    | none =>
      let now ← IO.monoMsNow
      if (machine.stamps.lookup task).getD now + milliseconds ≤ now then
        machine.take? task .expire
      else pure none

def stepReader? (machine : Machine) : IO (Option Machine) := do
  match machine.link with
  | none => pure none
  | some link =>
    match ← link.inbox.modifyGet fun bytes => (bytes.head?, bytes.tail) with
    | some byte => machine.act? (.receive byte)
    | none =>
      match ← link.failure.get with
      | some cause => machine.act? (.readFails cause)
      | none => machine.act? .readerLeaves

def step? (machine : Machine) : IO (Option Machine) := do
  for task in machine.system.tasks do
    if let some next ← machine.stepTask? task then return some next
  machine.stepReader?

/-- Lets the threads run until something has happened. -/
partial def runUntil (reached : Machine → IO Bool) (machine : Machine) : IO Machine := do
  if ← reached machine then pure machine
  else
    match ← machine.step? with
    | some next => next.runUntil reached
    | none =>
      IO.sleep 1
      machine.runUntil reached

def operate (machine : Machine) (operation : Operation) : IO (Answer × Machine) := do
  let begun := (← machine.act? (.begin 0 operation)).getD machine
  let done ← begun.runUntil fun machine => pure (machine.system.answer? 0).isSome
  pure ((done.system.answer? 0).getD .done, done)

partial def drainInput (input : IO.FS.Stream) : IO Unit := do
  let bytes ← input.read 4096
  if bytes.isEmpty then pure () else drainInput input

def carryOut : Procedure → Machine → IO UInt32
  | .note notice next, machine => do
    log machine.filter notice
    carryOut next machine
  | .whetherReady next, machine => carryOut (next machine.system.core.initialized) machine
  | .operate operation next, machine => do
    let (answer, machine) ← machine.operate operation
    carryOut (next answer) machine
  | .awaitIdle next, machine => do
    let machine ← machine.runUntil fun machine => pure !machine.system.core.inventoryActive
    carryOut next machine
  | .sleep milliseconds next, machine => do
    let latest := (← IO.monoMsNow) + milliseconds.toNat
    let machine ← machine.runUntil fun _ => do pure (decide (latest ≤ (← IO.monoMsNow)))
    carryOut next machine
  | .awaitInput next, machine => do
    let ended ← IO.asTask (drainInput (← IO.getStdin))
    let machine ← machine.runUntil fun _ => IO.hasFinished ended
    match ended.get with
    | .ok _ => carryOut (next none) machine
    | .error error => carryOut (next (some (toString error))) machine
  | .exit code, _ => pure code.toUInt32

end Machine

/-! ### Devices -/

namespace SerialLink

/-- Reads the device for as long as that is wanted and possible.  Asking for more than one
byte would wait for all of them. -/
partial def listen (link : SerialLink) : IO Unit := do
  unless ← link.wanted.get do return
  try
    let bytes ← link.input.read 1
    if bytes.isEmpty then IO.sleep 1
    else link.inbox.modify fun waiting => waiting ++ bytes.toList
  catch error =>
    link.failure.set (some (toString error))
    return
  link.listen

def openFailure : IO.Error → Failure
  | .noFileOrDirectory _ _ cause | .inappropriateType _ _ cause | .invalidArgument _ _ cause
  | .noSuchThing _ _ cause | .permissionDenied _ _ cause => .serialLine cause
  | error => .serialLine (toString error)

def openDevice (path : String) : IO (Except Failure SerialLink) := do
  try
    let output ← IO.FS.Handle.mk path .readWrite
    if ← output.isTty then
      let link : SerialLink :=
        ⟨output, ← IO.FS.Handle.mk path .read, ← IO.mkRef [], ← IO.mkRef none,
          ← IO.mkRef true⟩
      let _ ← IO.asTask link.listen .dedicated
      IO.sleep 500
      pure (.ok link)
    else pure (.error (.serialLine "Not a typewriter"))
  catch error => pure (.error (openFailure error))

end SerialLink

def Options.run (options : Options) : IO UInt32 := do
  let filter :=
    match ← IO.getEnv "RUST_LOG" with
    | some text => LogFilter.ofText text
    | none => LogFilter.ofVerbosity options.verbosity
  let link ← SerialLink.openDevice options.device
  let machine (link : Option SerialLink) : Machine :=
    ⟨.initial options.config link.isSome, link, filter, []⟩
  match link with
  | .ok link => do
    Machine.log filter (.deviceOpened options.device options.baud)
    let (_, connected) ← (machine (some link)).operate .connect
    let code ← connected.carryOut options.procedure
    link.wanted.set false
    pure code
  | .error failure => do
    Machine.log filter (.openFailed options.device failure)
    (machine none).carryOut options.procedure

end TagInventory

/-- The program: words in, exit code out. -/
def main (words : List String) : IO UInt32 :=
  match TagInventory.Invocation.ofWords words with
  | .help => do
    IO.print TagInventory.helpText
    pure 0
  | .version => do
    IO.print TagInventory.versionText
    pure 0
  | .misuse => do
    IO.eprintln "For more information, try '--help'."
    pure 2
  | .run options => options.run
