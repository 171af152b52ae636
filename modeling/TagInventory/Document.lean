import TagInventory.Radio

/-!
# Documents

Configurations are kept in documents of nested lists and records.  A structure of numbers
reads a record by the names of its fields or a list by their order, and is written as a
record.
-/

namespace TagInventory

/-- A value of a document. -/
inductive Document
  | null
  | boolean (value : Bool)
  | whole (value : Int)
  /-- A number with a fraction or an exponent. -/
  | fractional
  | text (value : String)
  | list (items : List Document)
  | record (fields : List (String × Document))
  deriving Repr, Inhabited

namespace Document

/-- A whole number of the given width in bits. -/
def number? (bits : Nat) : Document → Option Nat
  | whole (.ofNat value) => if value < 1 <<< bits then some value else none
  | _ => none

def byte? (document : Document) : Option UInt8 :=
  (document.number? 8).map UInt8.ofNat

def ofNat (value : Nat) : Document :=
  whole (.ofNat value)

def ofByte (value : UInt8) : Document :=
  ofNat value.toNat

end Document

/-! ### Radio settings -/

/-- Exactly four powers. -/
def Powers.ofDocument? : Document → Option Powers
  | .list [first, second, third, fourth] =>
    match first.byte?, second.byte?, third.byte?, fourth.byte? with
    | some first, some second, some third, some fourth => some ⟨first, second, third, fourth⟩
    | _, _, _, _ => none
  | _ => none

namespace RadioSettings

/-- The settings with the given fields, if each has its type. -/
def ofFields? (region first last powers : Document) : Option RadioSettings :=
  match region.byte?, first.byte?, last.byte?, Powers.ofDocument? powers with
  | some region, some first, some last, some powers => some ⟨region, first, last, powers⟩
  | _, _, _, _ => none

/-- Reads settings.  No field may be missing; others are ignored in a record and refused
in a list. -/
def ofDocument? : Document → Option RadioSettings
  | .record fields =>
    match fields.lookup "region", fields.lookup "start_frequency",
      fields.lookup "end_frequency", fields.lookup "powers" with
    | some region, some first, some last, some powers => ofFields? region first last powers
    | _, _, _, _ => none
  | .list [region, first, last, powers] => ofFields? region first last powers
  | _ => none

def toDocument (settings : RadioSettings) : Document :=
  .record [
    ("region", .ofByte settings.region),
    ("start_frequency", .ofByte settings.startFrequency),
    ("end_frequency", .ofByte settings.endFrequency),
    ("powers", .list (settings.powers.toList.map .ofByte))]

end RadioSettings

end TagInventory
