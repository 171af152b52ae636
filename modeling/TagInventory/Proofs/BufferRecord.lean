import TagInventory.Proofs.Encoding

/-!
# Which payloads are buffer records

All fields of a buffer record are found from the front: its size byte says where the EPC ends,
and every field behind the EPC has its place from there.  So a payload begins with at most one
record, and with one as soon as it has the bytes that its size byte counts and the six around
them (`isSome_bufferRecord?_iff`).  What is read are the fields of this record, whatever
follows it (`bufferRecord?_eq_some_iff`).
-/

namespace TagInventory

/-! ## The byte of antenna and frequency -/

theorem toNat_radioAntenna (radio : UInt8) : (radioAntenna radio).toNat = radio.toNat % 4 := by
  rw [radioAntenna, UInt8.toNat_and]
  exact Nat.and_two_pow_sub_one_eq_mod radio.toNat 2

/-- The two parts together are the whole byte. -/
theorem radioAntenna_or_radioFrequency (radio : UInt8) :
    radioAntenna radio ||| radioFrequency radio = radio := by
  apply UInt8.toNat_inj.mp
  rw [radioAntenna, radioFrequency, UInt8.toNat_or, UInt8.toNat_and, UInt8.toNat_and,
    ← Nat.and_or_distrib_left]
  exact Nat.and_two_pow_sub_one_of_lt_two_pow radio.toNat_lt

theorem toNat_radioFrequency (radio : UInt8) :
    (radioFrequency radio).toNat = radio.toNat / 4 * 4 := by
  have hall : ∀ value : Fin 256, value.val &&& 252 = value.val / 4 * 4 := by
    decide +kernel
  rw [radioFrequency, UInt8.toNat_and]
  exact hall ⟨radio.toNat, radio.toNat_lt⟩

/-! ## Records and tags -/

namespace TagRead

/-- The tag has what a buffer record can say, and nothing else. -/
structure OfBuffer (tag : TagRead) (radio : UInt8) : Prop where
  epc_le : tag.epc.length ≤ 251
  antenna_eq : tag.antenna = radioAntenna radio
  frequency_eq : tag.frequency = radioFrequency radio
  data_eq : tag.data = []
  readCount_eq : tag.readCount = 0
  seen_eq : tag.seen = 0

/-- The buffer record of a tag. -/
def bufferBytes (tag : TagRead) (radio : UInt8) : List UInt8 :=
  encodeBufferRecord tag.announced tag.pc tag.crc tag.epc tag.rssi radio tag.inventoryCount

theorem OfBuffer.eq {tag : TagRead} {radio : UInt8} (h : tag.OfBuffer radio) :
    tag = { announced := tag.announced, pc := tag.pc, epc := tag.epc, crc := tag.crc,
            rssi := tag.rssi, antenna := radioAntenna radio, frequency := radioFrequency radio,
            inventoryCount := tag.inventoryCount } := by
  obtain ⟨-, hantenna, hfrequency, hdata, hreads, hseen⟩ := h
  cases tag
  simp only [TagRead.mk.injEq, true_and]
  exact ⟨hdata, hantenna, hfrequency, hreads, hseen⟩

theorem length_bufferBytes (tag : TagRead) (radio : UInt8) :
    (tag.bufferBytes radio).length = tag.epc.length + 10 := by
  simp only [bufferBytes, encodeBufferRecord, bytes16, List.length_append, List.length_cons,
    List.length_nil]
  omega

end TagRead

/-! ## The decoder -/

theorem eq_bufferBytes_of_bufferRecord? {payload : List UInt8} {tag : TagRead}
    (h : bufferRecord? payload = some tag) :
    ∃ radio rest, tag.OfBuffer radio ∧ payload = tag.bufferBytes radio ++ rest := by
  unfold bufferRecord? at h
  split at h
  case h_2 => cases h
  rename_i count1 count0 size pc1 pc0 fields
  split at h
  · cases h
  rename_i hsize
  simp only at h
  split at h
  case h_2 => cases h
  rename_i crc1 crc0 rssi radio inventories rest hdrop
  have hsizeLt := size.toNat_lt
  -- the EPC is as long as announced, for there are fields behind it
  obtain ⟨hepc, hsplit⟩ := take_of_drop_eq_cons hdrop
  have hsizeByte : UInt8.ofNat (size.toNat - 4 + 4) = size := by
    rw [Nat.sub_add_cancel (by omega), UInt8.ofNat_toNat]
  cases h
  refine ⟨radio, rest, ⟨?_, rfl, rfl, rfl, rfl, rfl⟩, ?_⟩
  · rw [hepc]
    omega
  · simp only [TagRead.bufferBytes, encodeBufferRecord, bytes16_word16, hepc, hsizeByte,
      List.append_assoc, List.cons_append, List.nil_append, hsplit]

/-- What is read from a payload is the record that it begins with. -/
theorem bufferRecord?_eq_some_iff {payload : List UInt8} {tag : TagRead} :
    bufferRecord? payload = some tag ↔
      ∃ radio rest, tag.OfBuffer radio ∧ payload = tag.bufferBytes radio ++ rest := by
  constructor
  · exact eq_bufferBytes_of_bufferRecord?
  · rintro ⟨radio, rest, htag, rfl⟩
    rw [TagRead.bufferBytes, bufferRecord?_encode_append _ _ _ _ _ _ _ htag.epc_le, ← htag.eq]

theorem bufferRecord?_of_long {payload : List UInt8} {size : UInt8}
    (hsize : payload[2]? = some size) (hfour : 4 ≤ size.toNat)
    (hlong : size.toNat + 6 ≤ payload.length) :
    ∃ tag, bufferRecord? payload = some tag := by
  match payload, hlong with
  | count1 :: count0 :: third :: pc1 :: pc0 :: fields, hlong =>
      obtain rfl : third = size := Option.some.inj hsize
      -- behind the EPC there are five bytes or more
      have hbehind : 5 ≤ (fields.drop (third.toNat - 4)).length := by
        rw [List.length_drop]
        simp only [List.length_cons] at hlong
        omega
      match hdrop : fields.drop (third.toNat - 4), hbehind with
      | crc1 :: crc0 :: rssi :: radio :: inventories :: rest, _ =>
          rw [← Option.isSome_iff_exists, bufferRecord?, if_neg (by omega)]
          simp only [hdrop, Option.isSome_some]
  | [], hlong | [_], hlong | [_, _], hlong | [_, _, _], hlong | [_, _, _, _], hlong =>
      simp only [List.length_cons, List.length_nil] at hlong
      omega

/-- A payload begins with a record when it has the bytes that its third one counts, and six
more. -/
theorem isSome_bufferRecord?_iff (payload : List UInt8) :
    (bufferRecord? payload).isSome = true ↔
      ∃ size, payload[2]? = some size ∧ 4 ≤ size.toNat ∧ size.toNat + 6 ≤ payload.length := by
  rw [Option.isSome_iff_exists]
  constructor
  · rintro ⟨tag, htag⟩
    obtain ⟨radio, rest, hread, rfl⟩ := bufferRecord?_eq_some_iff.mp htag
    -- the size byte of a record that was read did not wrap
    have hsize : (UInt8.ofNat (tag.epc.length + 4)).toNat = tag.epc.length + 4 := by
      have hle := hread.epc_le
      rw [UInt8.toNat_ofNat']
      omega
    refine ⟨UInt8.ofNat (tag.epc.length + 4), rfl, ?_, ?_⟩
    · rw [hsize]
      omega
    · rw [hsize, List.length_append, tag.length_bufferBytes]
      omega
  · rintro ⟨size, hsize, hfour, hlong⟩
    exact bufferRecord?_of_long hsize hfour hlong

/-- **Buffer records are decoded exactly.**

* A payload is decoded when its third byte is at least four and the payload has six bytes more
  than this byte counts, and only then.
* The fields of a record are read back, whatever follows the record.  Antenna and frequency are
  the two low and the six high bits of one byte, and give this byte together; what a buffer
  record does not carry is empty or zero.
* A payload that is decoded begins with the record of the tag that is read. -/
theorem bufferRecord_exact :
    (∀ payload, (bufferRecord? payload).isSome = true ↔
        ∃ size, payload[2]? = some size ∧ 4 ≤ size.toNat ∧ size.toNat + 6 ≤ payload.length) ∧
    (∀ count pc crc epc rssi radio inventories rest, epc.length ≤ 251 → ∃ tag,
        bufferRecord? (encodeBufferRecord count pc crc epc rssi radio inventories ++ rest) =
          some tag ∧
        tag.announced = count ∧ tag.pc = pc ∧ tag.epc = epc ∧ tag.crc = crc ∧
        tag.rssi = rssi ∧ tag.inventoryCount = inventories ∧
        tag.antenna.toNat = radio.toNat % 4 ∧ tag.frequency.toNat = radio.toNat / 4 * 4 ∧
        tag.antenna ||| tag.frequency = radio ∧
        tag.data = [] ∧ tag.readCount = 0 ∧ tag.seen = 0) ∧
    ∀ payload tag, bufferRecord? payload = some tag ↔
      ∃ radio rest, tag.OfBuffer radio ∧ payload = tag.bufferBytes radio ++ rest := by
  refine ⟨isSome_bufferRecord?_iff, ?_, fun _ _ => bufferRecord?_eq_some_iff⟩
  intro count pc crc epc rssi radio inventories rest hepc
  exact ⟨_, bufferRecord?_encode_append count pc crc epc rssi radio inventories hepc rest,
    rfl, rfl, rfl, rfl, rfl, rfl, toNat_radioAntenna radio, toNat_radioFrequency radio,
    radioAntenna_or_radioFrequency radio, rfl, rfl, rfl⟩

/-- The longest EPC that the size byte can count, with a byte of noise behind the record. -/
theorem bufferRecord_exact_longest :
    let epc := List.replicate 251 (0xA0 : UInt8)
    let payload := encodeBufferRecord 2 0x3000 0x1234 epc 0x45 0x06 1 ++ [0x99]
    epc.length ≤ 251 ∧ ∃ tag, bufferRecord? payload = some tag ∧ tag.epc = epc ∧
      tag.crc = 0x1234 ∧ tag.antenna ||| tag.frequency = 0x06 := by
  intro epc payload
  have hepc : epc.length ≤ 251 := Nat.le_of_eq List.length_replicate
  obtain ⟨-, hfields, -⟩ := bufferRecord_exact
  obtain ⟨tag, htag, -, -, hepcEq, hcrc, -, -, -, -, hradio, -⟩ :=
    hfields 2 0x3000 0x1234 epc 0x45 0x06 1 [0x99] hepc
  exact ⟨hepc, tag, htag, hepcEq, hcrc, hradio⟩

end TagInventory
