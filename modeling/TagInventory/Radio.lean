/-!
# Radio parameters

The values that requests set and responses report: serial speed, antenna,
frequency band, output power and memory bank.

The firmware refuses powers above `maxOutputPower` and frequency codes above
`maxFrequencyCode`; requests replace such values by ones that it accepts
(`acceptedPower`, `Band.normalize`).
-/

namespace TagInventory

inductive Baudrate
  | bps38400
  | bps115200
  deriving DecidableEq, Repr

namespace Baudrate

/-- The byte that a request carries for a speed. -/
def code : Baudrate → UInt8
  | .bps38400 => 0x03
  | .bps115200 => 0x04

def ofCode? : UInt8 → Option Baudrate
  | 0x03 => some .bps38400
  | 0x04 => some .bps115200
  | _ => none

@[simp] theorem ofCode?_code (rate : Baudrate) : ofCode? rate.code = some rate := by
  cases rate <;> rfl

theorem code_of_ofCode? {code : UInt8} {rate : Baudrate} (h : ofCode? code = some rate) :
    rate.code = code := by
  unfold ofCode? at h
  split at h <;> cases h <;> rfl

end Baudrate

inductive Antenna
  | first
  | second
  | third
  | fourth
  deriving DecidableEq, Repr

namespace Antenna

def code : Antenna → UInt8
  | .first => 0x00
  | .second => 0x01
  | .third => 0x02
  | .fourth => 0x03

def ofCode? : UInt8 → Option Antenna
  | 0x00 => some .first
  | 0x01 => some .second
  | 0x02 => some .third
  | 0x03 => some .fourth
  | _ => none

@[simp] theorem ofCode?_code (antenna : Antenna) : ofCode? antenna.code = some antenna := by
  cases antenna <;> rfl

theorem code_of_ofCode? {code : UInt8} {antenna : Antenna} (h : ofCode? code = some antenna) :
    antenna.code = code := by
  unfold ofCode? at h
  split at h <;> cases h <;> rfl

end Antenna

inductive MemoryBank
  | reserved
  | epc
  | tid
  | user
  deriving DecidableEq, Repr

namespace MemoryBank

def code : MemoryBank → UInt8
  | .reserved => 0x00
  | .epc => 0x01
  | .tid => 0x02
  | .user => 0x03

def ofCode? : UInt8 → Option MemoryBank
  | 0x00 => some .reserved
  | 0x01 => some .epc
  | 0x02 => some .tid
  | 0x03 => some .user
  | _ => none

@[simp] theorem ofCode?_code (bank : MemoryBank) : ofCode? bank.code = some bank := by
  cases bank <;> rfl

theorem code_of_ofCode? {code : UInt8} {bank : MemoryBank} (h : ofCode? code = some bank) :
    bank.code = code := by
  unfold ofCode? at h
  split at h <;> cases h <;> rfl

end MemoryBank

/-- Regulatory regions. -/
inductive Region
  | fcc
  | etsi
  | chn
  deriving DecidableEq, Repr

namespace Region

def code : Region → UInt8
  | .fcc => 0x01
  | .etsi => 0x02
  | .chn => 0x03

def ofCode? : UInt8 → Option Region
  | 0x01 => some .fcc
  | 0x02 => some .etsi
  | 0x03 => some .chn
  | _ => none

def name : Region → String
  | .fcc => "FCC"
  | .etsi => "ETSI"
  | .chn => "CHN"

@[simp] theorem ofCode?_code (region : Region) : ofCode? region.code = some region := by
  cases region <;> rfl

end Region

/-! ### Output power -/

/-- The highest output power of an antenna, in dBm. -/
def maxOutputPower : UInt8 := 0x21

/-- A power that the reader accepts: the one asked for, or none at all. -/
def acceptedPower (power : UInt8) : UInt8 :=
  if power ≤ maxOutputPower then power else 0

/-- One output power per antenna. -/
structure Powers where
  first : UInt8
  second : UInt8
  third : UInt8
  fourth : UInt8
  deriving DecidableEq, Repr

namespace Powers

def uniform (power : UInt8) : Powers :=
  ⟨power, power, power, power⟩

def accepted (powers : Powers) : Powers :=
  ⟨acceptedPower powers.first, acceptedPower powers.second,
    acceptedPower powers.third, acceptedPower powers.fourth⟩

/-- The powers in the order of the antennas. -/
def toList (powers : Powers) : List UInt8 :=
  [powers.first, powers.second, powers.third, powers.fourth]

/-- Four powers, or one for every antenna. -/
def ofList? : List UInt8 → Option Powers
  | [power] => some (uniform power)
  | [first, second, third, fourth] => some ⟨first, second, third, fourth⟩
  | _ => none

/-- One power stands for all antennas, and four powers for one antenna each. -/
theorem ofList?_eq_some_iff {payload : List UInt8} {powers : Powers} :
    ofList? payload = some powers ↔
      (∃ power, payload = [power] ∧ powers = uniform power) ∨ payload = powers.toList := by
  constructor
  · intro h
    unfold ofList? at h
    split at h
    · cases h
      exact .inl ⟨_, rfl, rfl⟩
    · cases h
      exact .inr rfl
    · cases h
  · rintro (⟨power, rfl, rfl⟩ | rfl)
    · rfl
    · rfl

end Powers

/-! ### Frequencies -/

def maxFrequencyCode : UInt8 := 0x3B

/-- The frequency of a code in units of half a megahertz: codes count half-megahertz
steps from 865 MHz, and what is no code stands for 865 MHz. -/
def halfMegahertz (code : UInt8) : Nat :=
  if code ≤ maxFrequencyCode then 2 * 865 + code.toNat else 2 * 865

/-- A frequency in megahertz with one decimal. -/
def frequencyText (code : UInt8) : String :=
  toString (halfMegahertz code / 2) ++ (if halfMegahertz code % 2 = 0 then ".0" else ".5")

/-- A frequency in megahertz without a useless decimal. -/
def shortFrequencyText (code : UInt8) : String :=
  toString (halfMegahertz code / 2) ++ (if halfMegahertz code % 2 = 0 then "" else ".5")

/-- A region and a range of frequency codes in it. -/
structure Band where
  region : Region
  first : UInt8
  last : UInt8
  deriving DecidableEq, Repr

namespace Band

/-- A band that the reader accepts.  An unknown region stands for ETSI; a range that is
empty or runs past the highest code is replaced by the range `0 … 6`. -/
def normalize (region first last : UInt8) : Band :=
  let known := (Region.ofCode? region).getD .etsi
  if last < first ∨ maxFrequencyCode < first ∨ maxFrequencyCode < last then
    ⟨known, 0x00, 0x06⟩
  else
    ⟨known, first, last⟩

end Band

/-! ### Settings -/

/-- The radio settings that the reader reported last.  The region is kept as reported,
also when it has no name. -/
structure RadioSettings where
  region : UInt8
  startFrequency : UInt8
  endFrequency : UInt8
  powers : Powers
  deriving DecidableEq, Repr

namespace RadioSettings

def initial : RadioSettings where
  region := Region.etsi.code
  startFrequency := 0
  endFrequency := 0
  powers := .uniform 0

def text (settings : RadioSettings) : String :=
  "\"frequencyRegion\":\x7b\"startFrequency\":" ++ toString settings.startFrequency ++
    ",\"endFrequency\":" ++ toString settings.endFrequency ++
    ",\"region\":" ++ toString settings.region ++
    "\x7d,\"powers\":[" ++ ",".intercalate (settings.powers.toList.map toString) ++ "]"

end RadioSettings

end TagInventory
