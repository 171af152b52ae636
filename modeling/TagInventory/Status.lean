import TagInventory.Text.Hex

/-!
# Status codes

A reader that cannot carry out a command answers with one status byte.  The known
codes have a text; `DeviceError` wraps any byte, so that unknown codes can be
reported too.
-/

namespace TagInventory

/-- The status codes of the firmware. -/
inductive StatusCode
  | commandSuccess
  | commandFail
  | mcuResetError
  | cwOnError
  | antennaMissing
  | writeFlashError
  | readFlashError
  | setOutputPowerError
  | tagInventoryError
  | tagReadError
  | tagWriteError
  | tagLockError
  | tagKillError
  | noTag
  | inventoryOkButAccessFail
  | bufferIsEmpty
  | accessOrPasswordError
  | parameterInvalid
  | wordCountTooLong
  | memBankOutOfRange
  | lockRegionOutOfRange
  | lockActionOutOfRange
  | readerAddressInvalid
  | antennaIdOutOfRange
  | outputPowerOutOfRange
  | frequencyRegionOutOfRange
  | baudrateOutOfRange
  | beeperModeOutOfRange
  | epcMatchTooLong
  | epcMatchLengthError
  | invalidEpcMatchMode
  | invalidFrequencyRange
  | noRn16FromTag
  | invalidDrmMode
  | pllLockFail
  | rfChipNoResponse
  | outputPowerNotAchieved
  | copyrightAuthenticationFail
  | spectrumRegulationError
  | outputPowerTooLow
  deriving DecidableEq, Repr

namespace StatusCode

def all : List StatusCode :=
  [.commandSuccess, .commandFail, .mcuResetError,
   .cwOnError, .antennaMissing, .writeFlashError,
   .readFlashError, .setOutputPowerError, .tagInventoryError,
   .tagReadError, .tagWriteError, .tagLockError,
   .tagKillError, .noTag, .inventoryOkButAccessFail,
   .bufferIsEmpty, .accessOrPasswordError, .parameterInvalid,
   .wordCountTooLong, .memBankOutOfRange, .lockRegionOutOfRange,
   .lockActionOutOfRange, .readerAddressInvalid, .antennaIdOutOfRange,
   .outputPowerOutOfRange, .frequencyRegionOutOfRange, .baudrateOutOfRange,
   .beeperModeOutOfRange, .epcMatchTooLong, .epcMatchLengthError,
   .invalidEpcMatchMode, .invalidFrequencyRange, .noRn16FromTag,
   .invalidDrmMode, .pllLockFail, .rfChipNoResponse,
   .outputPowerNotAchieved, .copyrightAuthenticationFail, .spectrumRegulationError,
   .outputPowerTooLow]

def code : StatusCode → UInt8
  | .commandSuccess => 0x10
  | .commandFail => 0x11
  | .mcuResetError => 0x20
  | .cwOnError => 0x21
  | .antennaMissing => 0x22
  | .writeFlashError => 0x23
  | .readFlashError => 0x24
  | .setOutputPowerError => 0x25
  | .tagInventoryError => 0x31
  | .tagReadError => 0x32
  | .tagWriteError => 0x33
  | .tagLockError => 0x34
  | .tagKillError => 0x35
  | .noTag => 0x36
  | .inventoryOkButAccessFail => 0x37
  | .bufferIsEmpty => 0x38
  | .accessOrPasswordError => 0x40
  | .parameterInvalid => 0x41
  | .wordCountTooLong => 0x42
  | .memBankOutOfRange => 0x43
  | .lockRegionOutOfRange => 0x44
  | .lockActionOutOfRange => 0x45
  | .readerAddressInvalid => 0x46
  | .antennaIdOutOfRange => 0x47
  | .outputPowerOutOfRange => 0x48
  | .frequencyRegionOutOfRange => 0x49
  | .baudrateOutOfRange => 0x4A
  | .beeperModeOutOfRange => 0x4B
  | .epcMatchTooLong => 0x4C
  | .epcMatchLengthError => 0x4D
  | .invalidEpcMatchMode => 0x4E
  | .invalidFrequencyRange => 0x4F
  | .noRn16FromTag => 0x50
  | .invalidDrmMode => 0x51
  | .pllLockFail => 0x52
  | .rfChipNoResponse => 0x53
  | .outputPowerNotAchieved => 0x54
  | .copyrightAuthenticationFail => 0x55
  | .spectrumRegulationError => 0x56
  | .outputPowerTooLow => 0x57

def text : StatusCode → String
  | .commandSuccess => "Command succeeded."
  | .commandFail => "Command failed."
  | .mcuResetError => "CPU reset error."
  | .cwOnError => "Turn on CW error."
  | .antennaMissing => "Antenna is missing."
  | .writeFlashError => "Write flash error."
  | .readFlashError => "Read flash error."
  | .setOutputPowerError => "Set output power error."
  | .tagInventoryError => "Error occurred when inventory."
  | .tagReadError => "Error occurred when read."
  | .tagWriteError => "Error occurred when write."
  | .tagLockError => "Error occurred when lock."
  | .tagKillError => "Error occurred when kill."
  | .noTag => "There is no tag to be operated."
  | .inventoryOkButAccessFail => "Tag Inventoried but access failed."
  | .bufferIsEmpty => "Buffer is empty."
  | .accessOrPasswordError => "Access failed or wrong password."
  | .parameterInvalid => "Invalid parameter."
  | .wordCountTooLong => "WordCnt is too long."
  | .memBankOutOfRange => "MemBank out of range."
  | .lockRegionOutOfRange => "Lock region out of range."
  | .lockActionOutOfRange => "LockType out of range."
  | .readerAddressInvalid => "Invalid reader address."
  | .antennaIdOutOfRange => "AntennaID out of range."
  | .outputPowerOutOfRange => "Output power out of range."
  | .frequencyRegionOutOfRange => "Frequency region out of range."
  | .baudrateOutOfRange => "Baud rate out of range."
  | .beeperModeOutOfRange => "Buzzer behavior out of range."
  | .epcMatchTooLong => "EPC match is too long."
  | .epcMatchLengthError => "EPC match length wrong."
  | .invalidEpcMatchMode => "Invalid EPC match mode."
  | .invalidFrequencyRange => "Invalid frequency range."
  | .noRn16FromTag => "Failed to receive RN16 from tag."
  | .invalidDrmMode => "Invalid DRM mode."
  | .pllLockFail => "PLL can not lock."
  | .rfChipNoResponse => "No response from RF chip."
  | .outputPowerNotAchieved => "Can't achieve desired output power level."
  | .copyrightAuthenticationFail => "Can't authenticate firmware copyright."
  | .spectrumRegulationError => "Spectrum regulation wrong."
  | .outputPowerTooLow => "Output power is too low."

def ofCode? (code : UInt8) : Option StatusCode :=
  all.find? fun status => status.code == code

@[simp] theorem ofCode?_code (status : StatusCode) : ofCode? status.code = some status := by
  cases status <;> rfl

end StatusCode

/-- A status other than success that a reader answered. -/
structure DeviceError where
  code : UInt8
  deriving DecidableEq, Repr

namespace DeviceError

def ofStatus (status : StatusCode) : DeviceError :=
  ⟨status.code⟩

/-- Reported when a response has no layout of its command and no status either. -/
def commandFail : DeviceError :=
  ofStatus .commandFail

/-- The status behind the error, when the table knows it. -/
def status? (error : DeviceError) : Option StatusCode :=
  StatusCode.ofCode? error.code

/-- The text of the status, or the bare code. -/
def message (error : DeviceError) : String :=
  match error.status? with
  | some status => status.text
  | none => "undeclared error code: " ++ lowerHex error.code

end DeviceError

end TagInventory
