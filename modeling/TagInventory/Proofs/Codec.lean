import TagInventory.Proofs.Checksum

/-!
# The frame codec is exact

A window is read as a frame exactly when it is the wire form of that frame
(`Frame.decode?_eq_some_iff`).  Which windows are wire forms is known without building a frame:
those whose size byte counts the bytes after it and whose total is zero modulo 256
(`Frame.isSome_decode?_iff`).  A frame to send carries what was asked for, up to the longest
payload, and is told from every other one by its bytes.
-/

namespace TagInventory

/-! ## Totals -/

/-- The sum of some bytes, which does not wrap. -/
def byteTotal (bytes : List UInt8) : Nat :=
  bytes.foldr (fun byte total => byte.toNat + total) 0

@[simp] theorem byteTotal_cons (byte : UInt8) (bytes : List UInt8) :
    byteTotal (byte :: bytes) = byte.toNat + byteTotal bytes := rfl

/-- The checksum is what the total lacks. -/
theorem checksum_eq_neg (bytes : List UInt8) : checksum bytes = -UInt8.ofNat (byteTotal bytes) := by
  induction bytes with
  | nil => rfl
  | cons byte bytes ih =>
      rw [checksum_cons, ih, byteTotal_cons, UInt8.ofNat_add, UInt8.ofNat_toNat]
      grind

theorem checksum_eq_zero_iff (bytes : List UInt8) :
    checksum bytes = 0 ↔ byteTotal bytes % 256 = 0 := by
  have hneg : -UInt8.ofNat (byteTotal bytes) = 0 ↔ UInt8.ofNat (byteTotal bytes) = 0 := by
    constructor <;> intro h <;> grind
  rw [checksum_eq_neg, hneg, ← UInt8.toNat_inj, UInt8.toNat_ofNat']
  rfl

namespace Frame

/-! ## Reading -/

/-- A window is read as the frame whose wire form it is. -/
theorem decode?_eq_some_iff {window : List UInt8} {frame : Frame} :
    decode? window = some frame ↔ window = frame.bytes := by
  constructor
  · exact eq_bytes_of_decode?
  · rintro rfl
    exact decode?_bytes frame

/-- What follows the command is the payload and the byte that brings the total to zero. -/
private theorem getLast?_of_checksum {head tail : List UInt8} (htail : tail ≠ [])
    (hzero : checksum (head ++ tail) = 0) :
    tail.getLast? = some (checksum (head ++ tail.dropLast)) := by
  have hsplit : head ++ tail = head ++ tail.dropLast ++ [tail.getLast htail] := by
    rw [List.append_assoc, List.dropLast_concat_getLast]
  have hone (last : UInt8) : checksum [last] = -last := by
    show 0 - last = -last
    grind
  rw [hsplit, checksum_append, hone] at hzero
  rw [List.getLast?_eq_some_getLast htail]
  congr 1
  grind

/-- A window holds a frame when it is long enough, its size byte counts the bytes after it
and its total is zero. -/
theorem isSome_decode?_iff (window : List UInt8) :
    (decode? window).isSome = true ↔
      5 ≤ window.length ∧
        (∃ size, window[1]? = some size ∧ size.toNat + 2 = window.length) ∧
        byteTotal window % 256 = 0 := by
  rw [← checksum_eq_zero_iff]
  constructor
  · intro hsome
    obtain ⟨frame, hframe⟩ := Option.isSome_iff_exists.mp hsome
    -- a window that is accepted is the wire form of a frame, where all three can be seen
    obtain rfl := eq_bytes_of_decode? hframe
    refine ⟨?_, ⟨frame.size, rfl, ?_⟩, checksum_bytes frame⟩
    · rw [length_bytes]
      exact Nat.le_add_left ..
    · rw [toNat_size, length_bytes]
      rfl
  · rintro ⟨hlength, ⟨size, hsize, hcounts⟩, hzero⟩
    -- five bytes are there to be taken apart
    match window, hlength with
    | header :: second :: address :: command :: first :: rest, _ =>
        obtain rfl : second = size := by simpa using hsize
        have hlast : (first :: rest).getLast? =
            some (checksum ([header, second, address, command] ++ (first :: rest).dropLast)) :=
          getLast?_of_checksum (List.cons_ne_nil first rest) hzero
        rw [decode?, dif_pos (by simpa using hcounts), if_pos (by simpa using hlast)]
        rfl

/-! ## Writing -/

theorem bytes_make (address command : UInt8) (payload : List UInt8) :
    (make address command payload).bytes =
      0xA0 :: (make address command payload).size :: address :: command ::
        (payload.take 252 ++ [(make address command payload).check]) := rfl

/-- A frame with the usual header is the one that is built from its fields. -/
theorem make_eq_self_iff (frame : Frame) :
    make frame.address frame.command frame.payload = frame ↔ frame.header = frameHeader := by
  have htake : frame.payload.take maxPayloadSize = frame.payload :=
    List.take_of_length_le frame.payload_le
  constructor
  · intro h
    rw [← h]
    rfl
  · intro hheader
    obtain ⟨header, address, command, payload, payload_le⟩ := frame
    obtain rfl : header = frameHeader := hheader
    simp only [make, mk.injEq, true_and]
    exact htake

/-- Frames to send differ in their bytes when they differ in anything. -/
theorem bytes_make_inj (address command : UInt8) (payload : List UInt8)
    (address' command' : UInt8) (payload' : List UInt8) :
    (make address command payload).bytes = (make address' command' payload').bytes ↔
      address = address' ∧ command = command' ∧ payload.take 252 = payload'.take 252 := by
  constructor
  · intro h
    have hframe : make address command payload = make address' command' payload' := by
      have hread := decode?_bytes (make address command payload)
      rw [h, decode?_bytes] at hread
      exact (Option.some.inj hread).symm
    simp only [make, mk.injEq, true_and] at hframe
    exact hframe
  · rintro ⟨rfl, rfl, htake⟩
    have hframe : make address command payload = make address command payload' := by
      simp only [make, mk.injEq, true_and]
      exact htake
    rw [hframe]

/-- **The frame codec is exact in both directions.**

* A frame to send holds the first 252 bytes of the payload behind header, size byte, address
  and command.  The size byte does not wrap, the total of all bytes is zero modulo 256, and
  the frame is read back from its bytes.
* Bytes are a frame exactly when there are five of them or more, the second one counts what
  follows it, and their total is zero modulo 256.
* They are then the wire form of the frame that is read, and of no other one.  If the first of
  them is the header, then this frame is the one that is built from its own fields.
* Two frames to send have the same bytes exactly when they agree in address, command and the
  first 252 bytes of the payload. -/
theorem codec_exact :
    (∀ address command payload, ∃ size check,
        (make address command payload).payload = payload.take 252 ∧
        (make address command payload).bytes =
          0xA0 :: size :: address :: command :: (payload.take 252 ++ [check]) ∧
        size.toNat = (payload.take 252).length + 3 ∧
        byteTotal (make address command payload).bytes % 256 = 0 ∧
        decode? (make address command payload).bytes = some (make address command payload)) ∧
    (∀ window, (decode? window).isSome = true ↔
        5 ≤ window.length ∧
          (∃ size, window[1]? = some size ∧ size.toNat + 2 = window.length) ∧
          byteTotal window % 256 = 0) ∧
    (∀ window frame, decode? window = some frame ↔ window = frame.bytes) ∧
    (∀ frame : Frame, frame.bytes.head? = some 0xA0 ↔
        make frame.address frame.command frame.payload = frame) ∧
    (∀ address command payload address' command' payload',
        (make address command payload).bytes = (make address' command' payload').bytes ↔
          address = address' ∧ command = command' ∧ payload.take 252 = payload'.take 252) := by
  refine ⟨?_, isSome_decode?_iff, fun _ _ => decode?_eq_some_iff, ?_, bytes_make_inj⟩
  · intro address command payload
    refine ⟨_, _, rfl, bytes_make address command payload, toNat_size _, ?_, decode?_bytes _⟩
    exact (checksum_eq_zero_iff _).mp (checksum_bytes _)
  · intro frame
    rw [make_eq_self_iff]
    exact Option.some_inj

end Frame

end TagInventory
