import TagInventory.Text.Hex

/-!
# Tags

A `TagRead` is one observation of a tag.  Two observations are of the same tag when
their EPCs agree; the text of the EPC is the key of every view of tags.
-/

namespace TagInventory

/-- One observation of a tag, decoded from a buffer or read record. -/
structure TagRead where
  /-- Number of records announced for the response that this one came in. -/
  announced : UInt16 := 0
  pc : UInt16 := 0
  epc : List UInt8 := []
  crc : UInt16 := 0
  /-- Memory contents of a direct read; empty for a buffer record. -/
  data : List UInt8 := []
  rssi : UInt8 := 0
  antenna : UInt8 := 0
  frequency : UInt8 := 0
  inventoryCount : UInt8 := 0
  readCount : UInt8 := 0
  /-- How often the tag has been seen. -/
  seen : UInt32 := 0
  deriving DecidableEq, Repr

namespace TagRead

/-- The key of the tag in every view. -/
def key (read : TagRead) : String :=
  hexText read.epc

/-- Whether two observations are of one tag. -/
def sameTag (first second : TagRead) : Bool :=
  first.epc == second.epc

end TagRead

/-- Tags with the number of times each was seen, by key. -/
abbrev Counts := List (String × UInt32)

end TagInventory
