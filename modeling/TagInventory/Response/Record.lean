import TagInventory.Tag

/-!
# Records inside responses

Layouts of the payloads that carry more than a few fixed bytes.  Words are written most
significant byte first.

* inventory summary: `antenna, count(2), rate(2), total(4)`
* buffer record: `count(2), size, pc(2), epc…, crc(2), rssi, radio, inventories` where
  `size` covers PC, EPC and CRC
* read record: `count(2), size, pc(2), epc…, crc(2), data…, dataSize, radio, reads` where
  `size` covers PC, EPC, CRC and data, so that the EPC takes `size - dataSize - 4` bytes

The byte `radio` holds the antenna in its two low bits and the frequency in the others.

Each layout is a decoder and an encoder: `bufferRecord?` beside `encodeBufferRecord`,
`readRecord?` beside `encodeReadRecord`, `inventorySummary?` beside
`encodeInventorySummary`.
-/

namespace TagInventory

/-- A word from its two bytes. -/
def word16 (high low : UInt8) : UInt16 :=
  UInt16.ofNat (256 * high.toNat + low.toNat)

/-- A double word from its four bytes. -/
def word32 (first second third fourth : UInt8) : UInt32 :=
  UInt32.ofNat
    (256 * (256 * (256 * first.toNat + second.toNat) + third.toNat) + fourth.toNat)

def bytes16 (word : UInt16) : List UInt8 :=
  [UInt8.ofNat (word.toNat / 256), UInt8.ofNat (word.toNat % 256)]

def bytes32 (word : UInt32) : List UInt8 :=
  [UInt8.ofNat (word.toNat / 16777216), UInt8.ofNat (word.toNat / 65536 % 256),
    UInt8.ofNat (word.toNat / 256 % 256), UInt8.ofNat (word.toNat % 256)]

def radioAntenna (radio : UInt8) : UInt8 :=
  radio &&& 0x03

def radioFrequency (radio : UInt8) : UInt8 :=
  radio &&& 0xFC

/-! ### Inventory summaries -/

/-- What an inventory round found. -/
structure InventorySummary where
  antenna : UInt8
  tagCount : UInt16
  readRate : UInt16
  totalRead : UInt32
  deriving DecidableEq, Repr

/-- A summary from its bytes; bytes after it are ignored. -/
def inventorySummary? : List UInt8 → Option InventorySummary
  | antenna :: count1 :: count0 :: rate1 :: rate0 :: total3 :: total2 :: total1 :: total0 :: _ =>
    some ⟨antenna, word16 count1 count0, word16 rate1 rate0, word32 total3 total2 total1 total0⟩
  | _ => none

def encodeInventorySummary (summary : InventorySummary) : List UInt8 :=
  summary.antenna :: (bytes16 summary.tagCount ++ bytes16 summary.readRate ++
    bytes32 summary.totalRead)

/-! ### Buffer records -/

/-- A buffered tag from its bytes; bytes after the record are ignored. -/
def bufferRecord? : List UInt8 → Option TagRead
  | count1 :: count0 :: size :: pc1 :: pc0 :: rest =>
    if size.toNat < 4 then none
    else
      let epcSize := size.toNat - 4
      match rest.drop epcSize with
      | crc1 :: crc0 :: rssi :: radio :: inventories :: _ =>
        some {
          announced := word16 count1 count0
          pc := word16 pc1 pc0
          epc := rest.take epcSize
          crc := word16 crc1 crc0
          rssi := rssi
          antenna := radioAntenna radio
          frequency := radioFrequency radio
          inventoryCount := inventories }
      | _ => none
  | _ => none

/-- The bytes of a record with the given fields. -/
def encodeBufferRecord (count pc crc : UInt16) (epc : List UInt8)
    (rssi radio inventories : UInt8) : List UInt8 :=
  bytes16 count ++ [UInt8.ofNat (epc.length + 4)] ++ bytes16 pc ++ epc ++ bytes16 crc ++
    [rssi, radio, inventories]

/-! ### Read records -/

/-- A read tag from its bytes.  The sizes of EPC and data are found from both ends. -/
def readRecord? (payload : List UInt8) : Option TagRead :=
  match payload, payload.reverse with
  | count1 :: count0 :: size :: pc1 :: pc0 :: rest, reads :: radio :: dataSize :: _ =>
    if size.toNat < dataSize.toNat + 4 then none
    else
      let epcSize := size.toNat - (dataSize.toNat + 4)
      match rest.drop epcSize with
      | crc1 :: crc0 :: tail =>
        if tail.length < dataSize.toNat then none
        else
          some {
            announced := word16 count1 count0
            pc := word16 pc1 pc0
            epc := rest.take epcSize
            crc := word16 crc1 crc0
            data := tail.take dataSize.toNat
            antenna := radioAntenna radio
            frequency := radioFrequency radio
            readCount := reads }
      | _ => none
  | _, _ => none

/-- The bytes of a record with the given fields. -/
def encodeReadRecord (count pc crc : UInt16) (epc data : List UInt8)
    (radio reads : UInt8) : List UInt8 :=
  bytes16 count ++ [UInt8.ofNat (epc.length + data.length + 4)] ++ bytes16 pc ++ epc ++
    bytes16 crc ++ data ++ [UInt8.ofNat data.length, radio, reads]

/-! ### Words -/

@[simp] theorem word16_bytes16 (word : UInt16) :
    word16 (UInt8.ofNat (word.toNat / 256)) (UInt8.ofNat (word.toNat % 256)) = word := by
  have h := word.toNat_lt
  apply UInt16.toNat_inj.mp
  rw [word16, UInt16.toNat_ofNat', UInt8.toNat_ofNat', UInt8.toNat_ofNat']
  omega

end TagInventory
