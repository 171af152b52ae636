import TagInventory.CommandLine.Options
import TagInventory.Engine.Call

/-!
# What the program does

The program opens the device, resets the reader if asked to, and runs either a number of
cycles or continuously until a timer ends or its input closes.  `Options.procedure` lays
this down step by step; whoever carries it out decides what a device, a moment and an
input are.
-/

namespace TagInventory

/-- A course of the program, from the moment at which the device was tried. -/
inductive Procedure
  | note (notice : Notice) (next : Procedure)
  /-- Asks whether the reader answered. -/
  | whetherReady (next : Bool → Procedure)
  | operate (operation : Operation) (next : Answer → Procedure)
  | awaitIdle (next : Procedure)
  | sleep (milliseconds : UInt64) (next : Procedure)
  /-- Waits for the end of the input, or for the reason why it cannot be read. -/
  | awaitInput (next : Option String → Procedure)
  | exit (code : UInt8)

namespace Options

def config (options : Options) : EngineConfig :=
  { EngineConfig.standard with baudRate := options.baud, pollInterval := options.pollInterval }

/-- The engine is stopped before the program ends well. -/
def closing : Procedure :=
  .operate .close fun _ => .exit 0

def givingUp (failure : Failure) : Procedure :=
  .note (.inventoryFailed failure) (.exit 1)

/-- Polls until the timer ends or the input closes. -/
def untilStopped (options : Options) : Procedure :=
  let stopping : Procedure := .operate .stop fun _ => closing
  match options.duration with
  | some milliseconds =>
    .note (.timerStarted milliseconds) (.sleep milliseconds (.note .timerEnded stopping))
  | none =>
    .note .waitingForInput <| .awaitInput fun failure =>
      match failure with
      | some cause => .note (.inputFailed cause) stopping
      | none => stopping

def polling (options : Options) : Procedure :=
  match options.cycles with
  | some cycles =>
    .operate (.runBounded cycles options.labels) fun
      | .refused failure => givingUp failure
      | _ => .awaitIdle closing
  | none =>
    .operate (.startContinuous true) fun
      | .refused failure => givingUp failure
      | _ => options.untilStopped

def procedure (options : Options) : Procedure :=
  .whetherReady fun ready =>
    if ready then
      if options.reset then
        .operate (.execute Command.reset.code []) fun
          | .refused failure => .note (.resetFailed failure) options.polling
          | _ => options.polling
      else options.polling
    else .note (.deviceNotReady options.device) (.exit 1)

end Options

end TagInventory
