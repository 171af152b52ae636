import TagInventory.Command
import TagInventory.Status

/-!
# Failures

Everything that can keep an operation from being carried out, with the text that a
user is shown.  A failure names its cause; the wording is in one place.
-/

namespace TagInventory

/-- The parameters of raw requests that have to be codes of a table. -/
inductive Parameter
  | baudrate
  | antenna
  | memoryBank
  deriving DecidableEq, Repr

def Parameter.name : Parameter → String
  | .baudrate => "baud rate"
  | .antenna => "antenna"
  | .memoryBank => "memory bank"

/-- What is wrong with the parameters of a request. -/
inductive ParameterFault
  | unknownCode (command : Command) (parameter : Parameter) (code : UInt8)
  | payloadSize (command : Command) (size : Nat)
  | described (text : String)
  deriving DecidableEq, Repr

def ParameterFault.message : ParameterFault → String
  | .unknownCode command parameter code =>
    command.name ++ ": bad " ++ parameter.name ++ " 0x" ++ lowerHex code
  | .payloadSize command size =>
    command.name ++ ": unexpected payload length " ++ toString size
  | .described text => text

/-- Why an operation was not carried out. -/
inductive Failure
  | transport (cause : String)
  | invalidParameter (fault : ParameterFault)
  | device (error : DeviceError)
  | notInitialized
  | unsupportedCommand (code : UInt8)
  | inputOutput (cause : String)
  | serialLine (cause : String)
  deriving DecidableEq, Repr

def Failure.message : Failure → String
  | .transport cause => "transport error: " ++ cause
  | .invalidParameter fault => "invalid parameter: " ++ fault.message
  | .device error => "reader error: " ++ error.message
  | .notInitialized => "reader is not initialized"
  | .unsupportedCommand code => "unsupported command: 0x" ++ lowerHex code
  | .inputOutput cause => "i/o error: " ++ cause
  | .serialLine cause => "serial port error: " ++ cause

end TagInventory
