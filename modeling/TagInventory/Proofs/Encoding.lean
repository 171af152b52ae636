import TagInventory.Frame
import TagInventory.Response
import TagInventory.Text.Hex

/-!
# What is encoded is read back

Frames, inventory summaries and buffer records are read back from their bytes, and bytes
from their hexadecimal text, so that two tags share a key only if they share their EPC.
-/

namespace TagInventory

/-! ## Hexadecimal text -/

theorem upperDigit_inj {first second : Nat} (hfirst : first < 16) (hsecond : second < 16)
    (h : upperDigit first = upperDigit second) : first = second := by
  have hall : ∀ i j : Fin 16, upperDigit i.val = upperDigit j.val → i = j := by decide
  have heq := hall ⟨first, hfirst⟩ ⟨second, hsecond⟩ h
  exact Fin.mk.inj heq

theorem upperPair_inj {first second : UInt8} (h : upperPair first = upperPair second) :
    first = second := by
  have hfirst := first.toNat_lt
  have hsecond := second.toNat_lt
  obtain ⟨hhigh, hlow⟩ : upperDigit (first.toNat / 16) = upperDigit (second.toNat / 16) ∧
      upperDigit (first.toNat % 16) = upperDigit (second.toNat % 16) := by
    simpa [upperPair] using h
  have hdiv := upperDigit_inj (by omega) (by omega) hhigh
  have hmod := upperDigit_inj (by omega) (by omega) hlow
  apply UInt8.toNat_inj.mp
  omega

theorem hexDigits_inj {first second : List UInt8} (h : hexDigits first = hexDigits second) :
    first = second := by
  induction first generalizing second with
  | nil =>
      have hlength := congrArg List.length h
      rw [length_hexDigits, length_hexDigits, List.length_nil] at hlength
      exact (List.eq_nil_of_length_eq_zero (by omega)).symm
  | cons byte first ih =>
      cases second with
      | nil => simp [upperPair] at h
      | cons other second =>
          rw [hexDigits_cons, hexDigits_cons] at h
          obtain ⟨hpair, hrest⟩ := List.append_inj h rfl
          rw [upperPair_inj hpair, ih hrest]

/-- Bytes are known from their text. -/
theorem hexText_inj {first second : List UInt8} (h : hexText first = hexText second) :
    first = second :=
  hexDigits_inj (String.ofList_injective h)

/-! ## Frames -/

namespace Frame

theorem decode?_bytes (frame : Frame) : decode? frame.bytes = some frame := by
  -- payload and checksum are never empty, which is what `decode?` asks for first
  obtain ⟨first, rest, htail⟩ : ∃ first rest, frame.payload ++ [frame.check] = first :: rest :=
    List.exists_cons_of_ne_nil (by simp)
  have hdrop : (first :: rest).dropLast = frame.payload := by
    rw [← htail]
    simp
  have hlast : (first :: rest).getLast? = some frame.check := by
    rw [← htail]
    simp
  have hlength : (first :: rest).length = frame.payload.length + 1 := by
    rw [← htail]
    simp
  have hbytes : frame.bytes =
      frame.header :: frame.size :: frame.address :: frame.command :: (first :: rest) := by
    rw [← htail]
    rfl
  rw [hbytes, decode?]
  simp only [hdrop, hlast]
  rw [dif_pos (by rw [toNat_size, hlength])]
  exact if_pos rfl

end Frame

/-! ## Words -/

theorem bytes16_word16 (high low : UInt8) : bytes16 (word16 high low) = [high, low] := by
  have hhigh := high.toNat_lt
  have hlow := low.toNat_lt
  have hword : (word16 high low).toNat = 256 * high.toNat + low.toNat := by
    rw [word16, UInt16.toNat_ofNat']
    omega
  have hdiv : (word16 high low).toNat / 256 = high.toNat := by omega
  have hmod : (word16 high low).toNat % 256 = low.toNat := by omega
  rw [bytes16, hdiv, hmod, UInt8.ofNat_toNat, UInt8.ofNat_toNat]

theorem word32_bytes32 (word : UInt32) :
    word32 (UInt8.ofNat (word.toNat / 16777216)) (UInt8.ofNat (word.toNat / 65536 % 256))
      (UInt8.ofNat (word.toNat / 256 % 256)) (UInt8.ofNat (word.toNat % 256)) = word := by
  have h := word.toNat_lt
  apply UInt32.toNat_inj.mp
  rw [word32, UInt32.toNat_ofNat', UInt8.toNat_ofNat', UInt8.toNat_ofNat', UInt8.toNat_ofNat',
    UInt8.toNat_ofNat']
  omega

/-! ## Records -/

/-- Bytes that go on behind a field were not used up by it. -/
theorem take_of_drop_eq_cons {bytes rest : List UInt8} {size : Nat} {next : UInt8}
    (h : bytes.drop size = next :: rest) :
    (bytes.take size).length = size ∧ bytes.take size ++ next :: rest = bytes := by
  have hlength := congrArg List.length h
  rw [List.length_drop, List.length_cons] at hlength
  refine ⟨?_, ?_⟩
  · rw [List.length_take]
    omega
  · rw [← h, List.take_append_drop]

theorem inventorySummary?_encode (summary : InventorySummary) :
    inventorySummary? (encodeInventorySummary summary) = some summary := by
  simp only [encodeInventorySummary, bytes16, bytes32, List.cons_append, List.nil_append,
    inventorySummary?, word16_bytes16, word32_bytes32]

/-- A buffer record is read back when its size fits one byte, whatever follows it. -/
theorem bufferRecord?_encode_append (count pc crc : UInt16) (epc : List UInt8)
    (rssi radio inventories : UInt8) (h : epc.length ≤ 251) (rest : List UInt8) :
    bufferRecord? (encodeBufferRecord count pc crc epc rssi radio inventories ++ rest) =
      some { announced := count, pc := pc, epc := epc, crc := crc, rssi := rssi,
             antenna := radioAntenna radio, frequency := radioFrequency radio,
             inventoryCount := inventories } := by
  have hsize : (UInt8.ofNat (epc.length + 4)).toNat = epc.length + 4 := by
    rw [UInt8.toNat_ofNat']
    omega
  have hdrop (rest : List UInt8) : (epc ++ rest).drop epc.length = rest := List.drop_left
  have htake (rest : List UInt8) : (epc ++ rest).take epc.length = epc := List.take_left
  simp only [encodeBufferRecord, bytes16, List.cons_append, List.nil_append, List.append_assoc,
    bufferRecord?, hsize, Nat.add_sub_cancel, hdrop, htake, word16_bytes16]
  rw [if_neg (by omega)]

/-! ## Responses -/

theorem decode_inventory (summary : InventorySummary) :
    Response.decode .inventory (encodeInventorySummary summary) =
      .ok (.inventoryDone summary) := by
  rw [Response.decode, inventorySummary?_encode]
  rfl

theorem decode_bufferTagCount (count : UInt16) :
    Response.decode .getInventoryBufferTagCount (bytes16 count) = .ok (.bufferTagCount count) := by
  simp only [bytes16, Response.decode, word16_bytes16]

theorem decode_bufferRecord (count pc crc : UInt16) (epc : List UInt8)
    (rssi radio inventories : UInt8) (h : epc.length ≤ 251) :
    Response.decode .getAndResetInventoryBuffer
        (encodeBufferRecord count pc crc epc rssi radio inventories) =
      .ok (.bufferedTag { announced := count, pc := pc, epc := epc, crc := crc, rssi := rssi,
                          antenna := radioAntenna radio, frequency := radioFrequency radio,
                          inventoryCount := inventories }) := by
  have hread := bufferRecord?_encode_append count pc crc epc rssi radio inventories h []
  rw [List.append_nil] at hread
  rw [Response.decode, hread]
  rfl

end TagInventory
