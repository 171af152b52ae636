import TagInventory.Proofs.Encoding
import TagInventory.Proofs.Reply

/-!
# Which payloads are read records

A read record is written from the front up to its data, and its last three bytes, the trailer,
say how long the data is.  The decoder looks for the front at the beginning of a payload and
for the trailer at the end of it, and takes every payload for a record in which it finds both
(`readRecord?_eq_some_iff`).

Nothing keeps the two apart.  A payload that was cut off within its last three bytes still
begins with the front of the record, and its last bytes pass for a trailer wherever the length
in them fits.  So the fields of a record come from different bytes exactly when the payload
has the six bytes that surround what its size byte counts (`intact_iff`).
-/

namespace TagInventory

/-! ## Front and trailer -/

namespace TagRead

/-- What the size byte of a read record counts: PC, EPC, CRC and data. -/
def readSize (tag : TagRead) : Nat :=
  tag.epc.length + tag.data.length + 4

/-- The bytes of a read record up to its data. -/
def readFront (tag : TagRead) : List UInt8 :=
  bytes16 tag.announced ++ [UInt8.ofNat tag.readSize] ++ bytes16 tag.pc ++ tag.epc ++
    bytes16 tag.crc ++ tag.data

/-- The bytes of a read record behind its data. -/
def readTrailer (tag : TagRead) (radio : UInt8) : List UInt8 :=
  [UInt8.ofNat tag.data.length, radio, tag.readCount]

/-- The tag has what a read record can say, and nothing else. -/
structure OfRead (tag : TagRead) (radio : UInt8) : Prop where
  size_lt : tag.readSize < 256
  antenna_eq : tag.antenna = radioAntenna radio
  frequency_eq : tag.frequency = radioFrequency radio
  rssi_eq : tag.rssi = 0
  inventoryCount_eq : tag.inventoryCount = 0
  seen_eq : tag.seen = 0

theorem OfRead.eq {tag : TagRead} {radio : UInt8} (h : tag.OfRead radio) :
    tag = { announced := tag.announced, pc := tag.pc, epc := tag.epc, crc := tag.crc,
            data := tag.data, antenna := radioAntenna radio, frequency := radioFrequency radio,
            readCount := tag.readCount } := by
  obtain ⟨-, hantenna, hfrequency, hrssi, hinventories, hseen⟩ := h
  cases tag
  simp only [TagRead.mk.injEq, true_and]
  exact ⟨hrssi, hantenna, hfrequency, hinventories, hseen⟩

theorem length_readFront (tag : TagRead) : tag.readFront.length = tag.readSize + 3 := by
  simp only [readFront, readSize, bytes16, List.length_append, List.length_cons, List.length_nil]
  omega

theorem readFront_append (tag : TagRead) (rest : List UInt8) :
    tag.readFront ++ rest =
      UInt8.ofNat (tag.announced.toNat / 256) :: UInt8.ofNat (tag.announced.toNat % 256) ::
        UInt8.ofNat tag.readSize :: UInt8.ofNat (tag.pc.toNat / 256) ::
          UInt8.ofNat (tag.pc.toNat % 256) :: (tag.epc ++
            UInt8.ofNat (tag.crc.toNat / 256) :: UInt8.ofNat (tag.crc.toNat % 256) ::
              (tag.data ++ rest)) := by
  simp [readFront, bytes16]

end TagRead

theorem encodeReadRecord_eq (tag : TagRead) (radio : UInt8) :
    encodeReadRecord tag.announced tag.pc tag.crc tag.epc tag.data radio tag.readCount =
      tag.readFront ++ tag.readTrailer radio := rfl

/-- The front and the trailer of a record of `tag` are found in the payload, one at either
end of it. -/
def HoldsRead (payload : List UInt8) (tag : TagRead) : Prop :=
  ∃ radio, tag.OfRead radio ∧ tag.readFront <+: payload ∧ tag.readTrailer radio <:+ payload

/-- Front and trailer of the record are apart from each other. -/
def Intact (payload : List UInt8) (tag : TagRead) : Prop :=
  ∃ radio between, payload = tag.readFront ++ between ++ tag.readTrailer radio

/-! ## The decoder -/

theorem holdsRead_of_readRecord? {payload : List UInt8} {tag : TagRead}
    (h : readRecord? payload = some tag) : HoldsRead payload tag := by
  unfold readRecord? at h
  split at h
  case h_2 => cases h
  -- the front is read forwards, and the trailer backwards from the end
  rename_i count1 count0 size pc1 pc0 rest reads radio dataSize before hreverse
  split at h
  · cases h
  rename_i hsize
  simp only at h
  split at h
  case h_2 => cases h
  rename_i crc1 crc0 tail hdrop
  split at h
  · cases h
  rename_i hdata
  have hsizeLt := size.toNat_lt
  obtain ⟨hepc, hsplit⟩ := take_of_drop_eq_cons hdrop
  -- the data are complete, since the record was not refused
  have hdataLength : (tail.take dataSize.toNat).length = dataSize.toNat := by
    rw [List.length_take]
    omega
  have hreadSize : size.toNat - (dataSize.toNat + 4) + dataSize.toNat + 4 = size.toNat := by
    omega
  cases h
  refine ⟨radio, ⟨?_, rfl, rfl, rfl, rfl, rfl⟩, ⟨tail.drop dataSize.toNat, ?_⟩, ?_⟩
  · rw [TagRead.readSize, hepc, hdataLength]
    omega
  · simp only [TagRead.readFront, TagRead.readSize, bytes16_word16, hepc, hdataLength, hreadSize,
      UInt8.ofNat_toNat, List.append_assoc, List.cons_append, List.nil_append,
      List.take_append_drop, hsplit]
  · -- the trailer is at the end, wherever the data end
    rw [← List.reverse_prefix, hreverse]
    refine ⟨before, ?_⟩
    simp only [TagRead.readTrailer, hdataLength, UInt8.ofNat_toNat, List.reverse_cons,
      List.reverse_nil, List.nil_append, List.cons_append]

theorem readRecord?_of_holdsRead {payload : List UInt8} {tag : TagRead}
    (h : HoldsRead payload tag) : readRecord? payload = some tag := by
  obtain ⟨radio, hread, ⟨rest, hfront⟩, ⟨before, htrailer⟩⟩ := h
  have hlt : tag.epc.length + tag.data.length + 4 < 256 := hread.size_lt
  have hreverse : payload.reverse =
      tag.readCount :: radio :: UInt8.ofNat tag.data.length :: before.reverse := by
    simp [← htrailer, TagRead.readTrailer]
  have hdata : (UInt8.ofNat tag.data.length).toNat = tag.data.length := by
    rw [UInt8.toNat_ofNat']
    omega
  have hsize : (UInt8.ofNat tag.readSize).toNat = tag.epc.length + (tag.data.length + 4) := by
    rw [UInt8.toNat_ofNat', TagRead.readSize]
    omega
  rw [readRecord?.eq_def, hreverse, ← hfront, tag.readFront_append]
  simp only [hdata, hsize, Nat.add_sub_cancel, List.drop_left, List.take_left, word16_bytes16]
  rw [if_neg (by omega), if_neg (by rw [List.length_append]; omega)]
  rw [← hread.eq]

/-- A payload is a read record when it holds one at its two ends. -/
theorem readRecord?_eq_some_iff {payload : List UInt8} {tag : TagRead} :
    readRecord? payload = some tag ↔ HoldsRead payload tag :=
  ⟨holdsRead_of_readRecord?, readRecord?_of_holdsRead⟩

theorem readRecord?_encodeReadRecord {tag : TagRead} {radio : UInt8} (h : tag.OfRead radio) :
    readRecord? (encodeReadRecord tag.announced tag.pc tag.crc tag.epc tag.data radio
      tag.readCount) = some tag := by
  rw [encodeReadRecord_eq, readRecord?_eq_some_iff]
  exact ⟨radio, h, List.prefix_append .., List.suffix_append ..⟩

/-! ## Front and trailer apart -/

/-- The beginning and the end of a list are apart when there is room for both. -/
theorem exists_eq_append_append {α : Type} {front back whole : List α} (hfront : front <+: whole)
    (hback : back <:+ whole) (hroom : front.length + back.length ≤ whole.length) :
    ∃ between, whole = front ++ between ++ back := by
  obtain ⟨before, rfl⟩ := hback
  rw [List.length_append] at hroom
  have hle : front.length ≤ before.length := by omega
  obtain ⟨between, rfl⟩ : front <+: before :=
    List.prefix_of_prefix_length_le hfront (List.prefix_append before back) hle
  exact ⟨between, rfl⟩

/-- The size byte of a record that is held counts what it should. -/
theorem HoldsRead.getElem?_two {payload : List UInt8} {tag : TagRead}
    (h : HoldsRead payload tag) : (payload[2]?).map UInt8.toNat = some tag.readSize := by
  obtain ⟨radio, hread, ⟨rest, rfl⟩, -⟩ := h
  have hsize : (UInt8.ofNat tag.readSize).toNat = tag.readSize := by
    rw [UInt8.toNat_ofNat']
    exact Nat.mod_eq_of_lt hread.size_lt
  rw [tag.readFront_append]
  exact congrArg some hsize

/-- Three bytes behind the front are enough, and not fewer. -/
theorem HoldsRead.intact_iff {payload : List UInt8} {tag : TagRead} (h : HoldsRead payload tag) :
    Intact payload tag ↔ tag.readSize + 6 ≤ payload.length := by
  constructor
  · rintro ⟨radio, between, rfl⟩
    have hfront := tag.length_readFront
    have htrailer : (tag.readTrailer radio).length = 3 := rfl
    rw [List.length_append, List.length_append]
    omega
  · intro hlong
    obtain ⟨radio, -, hfront, htrailer⟩ := h
    have hroom : tag.readFront.length + (tag.readTrailer radio).length ≤ payload.length := by
      rw [tag.length_readFront]
      exact hlong
    obtain ⟨between, hpayload⟩ := exists_eq_append_append hfront htrailer hroom
    exact ⟨radio, between, hpayload⟩

theorem HoldsRead.le_length {payload : List UInt8} {tag : TagRead} (h : HoldsRead payload tag) :
    tag.readSize + 3 ≤ payload.length := by
  obtain ⟨radio, -, hfront, -⟩ := h
  rw [← tag.length_readFront]
  exact hfront.length_le

/-! ## Responses to a read -/

theorem Response.decode_read_eq_ok_iff {payload : List UInt8} {response : Response} :
    decode .read payload = .ok response ↔
      ∃ tag, HoldsRead payload tag ∧ response = .readTag tag := by
  rw [decode_eq_ok_iff]
  constructor
  · intro h
    cases h with
    | acknowledged rest h => cases h
    | bufferedTag hreads => cases hreads
    | readTag htag => exact ⟨_, readRecord?_eq_some_iff.mp htag, rfl⟩
  · rintro ⟨tag, htag, rfl⟩
    exact .readTag (readRecord?_eq_some_iff.mpr htag)

theorem Response.decode_read_eq_error_iff {payload : List UInt8} {error : DeviceError} :
    decode .read payload = .error error ↔ payload = [error.code] ∨
      payload.length ≠ 1 ∧ (∀ tag, ¬HoldsRead payload tag) ∧ error = .commandFail := by
  have hnone : readRecord? payload = none ↔ ∀ tag, ¬HoldsRead payload tag := by
    rw [Option.eq_none_iff_forall_ne_some]
    exact forall_congr' fun tag => not_congr readRecord?_eq_some_iff
  rw [← hnone]
  exact recordOr_eq_error_iff

namespace Reply

/-- **Which responses to a read are records.**  A payload is taken for the record of a tag when
it begins with the front of this record and ends with its trailer.  Any other payload is an
error: its only byte where it has one, and "command failed" otherwise.

A payload that is taken for a record has what its size byte counts and the three bytes before
that.  The front and the trailer come from different bytes exactly when it has the three bytes
of a trailer as well. -/
theorem read_of_frame {frame : Frame} (hcode : frame.command = Command.read.code) :
    ∃ result, ofFrame? frame = some ⟨.read, result⟩ ∧
      (∀ response, result = .ok response ↔
        ∃ tag, HoldsRead frame.payload tag ∧ response = .readTag tag) ∧
      (∀ error, result = .error error ↔ frame.payload = [error.code] ∨
        frame.payload.length ≠ 1 ∧ (∀ tag, ¬HoldsRead frame.payload tag) ∧
          error = .commandFail) ∧
      ∀ tag, result = .ok (.readTag tag) →
        (frame.payload[2]?).map UInt8.toNat = some tag.readSize ∧
          tag.readSize + 3 ≤ frame.payload.length ∧
          (Intact frame.payload tag ↔ tag.readSize + 6 ≤ frame.payload.length) := by
  refine ⟨_, ofFrame?_of_code rfl hcode, fun _ => Response.decode_read_eq_ok_iff,
    fun _ => Response.decode_read_eq_error_iff, ?_⟩
  intro tag htag
  obtain ⟨_, hholds, heq⟩ := Response.decode_read_eq_ok_iff.mp htag
  cases heq
  exact ⟨hholds.getElem?_two, hholds.le_length, hholds.intact_iff⟩

/-- The answer to a read that finds one tag. -/
private def readAnswer : List UInt8 :=
  encodeReadRecord 1 0x3000 0x1122 [0xE2, 0x00] [] 0x05 1

theorem read_of_readAnswer :
    let frame := Frame.make broadcastAddress Command.read.code readAnswer
    ∃ tag, ofFrame? frame = some ⟨.read, .ok (.readTag tag)⟩ ∧ Intact frame.payload tag := by
  intro frame
  obtain ⟨result, hreply, hok, -, hintact⟩ := read_of_frame (show frame.command = _ from rfl)
  have hholds : HoldsRead frame.payload
      { announced := 1, pc := 0x3000, epc := [0xE2, 0x00], crc := 0x1122, antenna := 1,
        frequency := 4, readCount := 1 } :=
    readRecord?_eq_some_iff.mp (by decide +kernel)
  have hresult := (hok _).mpr ⟨_, hholds, rfl⟩
  refine ⟨_, hresult ▸ hreply, ((hintact _ hresult).2.2).mpr ?_⟩
  decide +kernel

/-- What the answer is taken for when its last three bytes are lost on the way: its CRC, and
the byte before that, pass for a trailer. -/
private def misread : TagRead :=
  { announced := 1, pc := 0x3000, epc := [0xE2, 0x00], crc := 0x1122,
    antenna := radioAntenna 0x11, frequency := radioFrequency 0x11, readCount := 0x22 }

theorem read_of_cutAnswer :
    let frame := Frame.make broadcastAddress Command.read.code (readAnswer.take 9)
    ofFrame? frame = some ⟨.read, .ok (.readTag misread)⟩ ∧
      frame.payload.length < misread.readSize + 6 ∧ ¬Intact frame.payload misread := by
  intro frame
  have hread : readRecord? frame.payload = some misread := by decide +kernel
  have hshort : frame.payload.length < misread.readSize + 6 := by decide +kernel
  refine ⟨?_, hshort, ?_⟩
  · rw [ofFrame?_of_code rfl (show frame.command = Command.read.code from rfl),
      Response.decode_of_layout (.readTag hread)]
  · rw [(readRecord?_eq_some_iff.mp hread).intact_iff]
    omega

end Reply

end TagInventory
