import TagInventory.Document
import TagInventory.Frame

/-!
# Configuration of an engine

Eleven numbers.  `Setting` lists them in the order in which a document without names
gives them; `EngineConfig.get` and `EngineConfig.set` reach a field through its setting,
and reading and writing documents go through these two alone.
-/

namespace TagInventory

/-- The tunables of an inventory engine.  Times are in milliseconds. -/
structure EngineConfig where
  readerAddress : UInt8
  /-- The speed at which a device is opened. -/
  baudRate : UInt32
  /-- How long one read of the link waits. -/
  readSlice : UInt64
  /-- How long a command may stay unanswered. -/
  commandTimeout : UInt64
  allTagsTimeout : UInt64
  /-- The pause before each poll. -/
  settleDelay : UInt64
  /-- The pause between two cycles. -/
  pollInterval : UInt64
  /-- Polls that make up a cycle whose result counts. -/
  pollCount : UInt64
  /-- Cycles of the run after the door was closed. -/
  closeReadAttempts : UInt64
  idleInterval : UInt64
  /-- The number of rounds in an inventory request. -/
  inventoryRounds : UInt8
  deriving DecidableEq, Repr

inductive Setting
  | readerAddress
  | baudRate
  | readSlice
  | commandTimeout
  | allTagsTimeout
  | settleDelay
  | pollInterval
  | pollCount
  | closeReadAttempts
  | idleInterval
  | inventoryRounds
  deriving DecidableEq, Repr

namespace Setting

def all : List Setting :=
  [.readerAddress, .baudRate, .readSlice, .commandTimeout, .allTagsTimeout, .settleDelay,
   .pollInterval, .pollCount, .closeReadAttempts, .idleInterval, .inventoryRounds]

def name : Setting → String
  | .readerAddress => "reader_address"
  | .baudRate => "baud_rate"
  | .readSlice => "read_slice_ms"
  | .commandTimeout => "command_timeout_ms"
  | .allTagsTimeout => "all_tags_timeout_ms"
  | .settleDelay => "settle_delay_ms"
  | .pollInterval => "poll_interval_ms"
  | .pollCount => "poll_count"
  | .closeReadAttempts => "close_read_attempts"
  | .idleInterval => "idle_interval_ms"
  | .inventoryRounds => "inventory_repeat"

def bits : Setting → Nat
  | .readerAddress | .inventoryRounds => 8
  | .baudRate => 32
  | _ => 64

end Setting

namespace EngineConfig

/-- The configuration that is used where none is given. -/
def standard : EngineConfig where
  readerAddress := broadcastAddress
  baudRate := 115200
  readSlice := 10
  commandTimeout := 10000
  allTagsTimeout := 30000
  settleDelay := 700
  pollInterval := 1
  pollCount := 1
  closeReadAttempts := 3
  idleInterval := 10000
  inventoryRounds := 0xFF

def get (config : EngineConfig) : Setting → Nat
  | .readerAddress => config.readerAddress.toNat
  | .baudRate => config.baudRate.toNat
  | .readSlice => config.readSlice.toNat
  | .commandTimeout => config.commandTimeout.toNat
  | .allTagsTimeout => config.allTagsTimeout.toNat
  | .settleDelay => config.settleDelay.toNat
  | .pollInterval => config.pollInterval.toNat
  | .pollCount => config.pollCount.toNat
  | .closeReadAttempts => config.closeReadAttempts.toNat
  | .idleInterval => config.idleInterval.toNat
  | .inventoryRounds => config.inventoryRounds.toNat

/-- The configuration with a setting changed to a value of its width. -/
def set (config : EngineConfig) (setting : Setting) (value : Nat) : EngineConfig :=
  match setting with
  | .readerAddress => { config with readerAddress := .ofNat value }
  | .baudRate => { config with baudRate := .ofNat value }
  | .readSlice => { config with readSlice := .ofNat value }
  | .commandTimeout => { config with commandTimeout := .ofNat value }
  | .allTagsTimeout => { config with allTagsTimeout := .ofNat value }
  | .settleDelay => { config with settleDelay := .ofNat value }
  | .pollInterval => { config with pollInterval := .ofNat value }
  | .pollCount => { config with pollCount := .ofNat value }
  | .closeReadAttempts => { config with closeReadAttempts := .ofNat value }
  | .idleInterval => { config with idleInterval := .ofNat value }
  | .inventoryRounds => { config with inventoryRounds := .ofNat value }

/-- The time that one read of the link waits, which is a word of 32 bits. -/
def readTimeout (config : EngineConfig) : Nat :=
  min config.readSlice.toNat (UInt32.size - 1)

/-- Changes a setting to a value out of a document, if it has the width for it. -/
def setFrom? (config : EngineConfig) (setting : Setting) (value : Document) :
    Option EngineConfig :=
  (value.number? setting.bits).map (config.set setting)

def setAll? (config : EngineConfig) : List (Setting × Document) → Option EngineConfig
  | [] => some config
  | (setting, value) :: rest => (config.setFrom? setting value).bind fun next => next.setAll? rest

/-- Reads a configuration.  Fields that are missing have their standard values; a record
may hold other fields, a list may not be longer than the settings. -/
def ofDocument? : Document → Option EngineConfig
  | .record fields =>
    standard.setAll? (Setting.all.filterMap fun setting =>
      (fields.lookup setting.name).map (setting, ·))
  | .list items =>
    if items.length ≤ Setting.all.length then standard.setAll? (Setting.all.zip items) else none
  | _ => none

def toDocument (config : EngineConfig) : Document :=
  .record (Setting.all.map fun setting => (setting.name, .ofNat (config.get setting)))

end EngineConfig

end TagInventory
