import TagInventory.Bench.Device
import TagInventory.CommandLine.LogFilter
import TagInventory.CommandLine.Procedure

/-!
# The program on a bench

Runs the program from its words to its exit code, with a bench in place of the machine.
-/

namespace TagInventory

/-- The program looks every so many milliseconds whether a worker is still polling. -/
def idleLookPeriod : Nat := 50

structure Surroundings where
  /-- The device behind the path that was given. -/
  device : String → Device
  logFilter : Option String
  /-- Why the input cannot be read; none if it ends. -/
  inputFailure : Option String

structure ProgramRun where
  exitCode : UInt8
  output : String
  log : List Notice
  requests : List Frame

namespace Bench

/-- Looks from time to time until no worker is polling.  The first look finds a worker that
was just started. -/
def lookUntilIdle : Nat → Bench → Bench
  | 0, bench => bench
  | fuel + 1, bench =>
    let later := bench.sleep idleLookPeriod
    if later.core.inventoryActive then later.lookUntilIdle fuel else later

def carryOut (inputFailure : Option String) : Procedure → Bench → UInt8 × Bench
  | .note notice next, bench => carryOut inputFailure next (bench.note (.noted notice))
  | .whetherReady next, bench => carryOut inputFailure (next bench.core.initialized) bench
  | .operate operation next, bench =>
    let (answer, bench) := bench.operate operation
    carryOut inputFailure (next answer) bench
  | .awaitIdle next, bench => carryOut inputFailure next (bench.lookUntilIdle patience)
  | .sleep milliseconds next, bench =>
    carryOut inputFailure next (bench.sleep milliseconds.toNat)
  | .awaitInput next, bench => carryOut inputFailure (next inputFailure) bench
  | .exit code, bench => (code, bench)

end Bench

def runProgram (words : List String) (surroundings : Surroundings) : ProgramRun :=
  match Invocation.ofWords words with
  | .help => ⟨0, helpText, [], []⟩
  | .version => ⟨0, versionText, [], []⟩
  | .misuse => ⟨2, "", [], []⟩
  | .run options =>
    let filter :=
      match surroundings.logFilter with
      | some text => LogFilter.ofText text
      | none => LogFilter.ofVerbosity options.verbosity
    let bench := Bench.openOrIdle options.device (surroundings.device options.device) options.config
    let (code, bench) :=
      { bench with logsReports := true }.carryOut surroundings.inputFailure options.procedure
    ⟨code, "", (bench.log.reverse.filter filter.admits), bench.reader.received.reverse⟩

end TagInventory
