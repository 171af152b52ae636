import Mathlib.Data.List.Basic
import TagInventory.Proofs.Encoding

/-!
# What the checksum detects

A window is valid only if it is the wire form of the frame that is read from it
(`Frame.eq_bytes_of_decode?`), and the checksum of a wire form, its checksum byte included,
is zero.  Changing one byte moves the checksum by the difference (`checksum_set`), so that
no valid window becomes another one.
-/

namespace TagInventory

theorem foldl_checksum (start : UInt8) (bytes : List UInt8) :
    bytes.foldl (fun rest byte => rest - byte) start = start + checksum bytes := by
  unfold checksum
  induction bytes generalizing start with
  | nil => simp
  | cons byte bytes ih =>
      rw [List.foldl_cons, List.foldl_cons, ih, ih (0 - byte)]
      grind

theorem checksum_append (first second : List UInt8) :
    checksum (first ++ second) = checksum first + checksum second := by
  rw [checksum, List.foldl_append, foldl_checksum]
  rfl

theorem checksum_cons (byte : UInt8) (bytes : List UInt8) :
    checksum (byte :: bytes) = checksum bytes - byte := by
  have h := checksum_append [byte] bytes
  rw [List.singleton_append] at h
  rw [h]
  show 0 - byte + checksum bytes = _
  grind

/-- The checksum moves with every byte. -/
theorem checksum_set {bytes : List UInt8} {index : Nat} {old : UInt8}
    (h : bytes[index]? = some old) (byte : UInt8) :
    checksum (bytes.set index byte) = checksum bytes + (old - byte) := by
  induction bytes generalizing index with
  | nil => cases h
  | cons first bytes ih =>
      cases index with
      | zero =>
          obtain rfl : first = old := by simpa using h
          rw [List.set_cons_zero, checksum_cons, checksum_cons]
          grind
      | succ index =>
          rw [List.set_cons_succ, checksum_cons, checksum_cons, ih h]
          grind

namespace Frame

/-- The checksum byte brings the whole frame to zero. -/
theorem checksum_bytes (frame : Frame) : checksum frame.bytes = 0 := by
  rw [bytes, checksum_append]
  show checksum frame.body + (0 - checksum frame.body) = 0
  grind

/-- A valid window is the wire form of its frame. -/
theorem eq_bytes_of_decode? {window : List UInt8} {frame : Frame}
    (h : decode? window = some frame) : window = frame.bytes := by
  match window, h with
  | header :: size :: address :: command :: first :: rest, h =>
      rw [decode?] at h
      split at h
      · rename_i hsize
        split at h
        · rename_i hlast
          cases h
          -- the frame counts its size anew, and comes to the size byte
          have hbyte : UInt8.ofNat ((first :: rest).dropLast.length + 3) = size := by
            apply UInt8.toNat_inj.mp
            have hlt := size.toNat_lt
            rw [UInt8.toNat_ofNat', List.length_dropLast, hsize]
            rw [hsize] at hlt
            simp only [List.length_cons] at *
            omega
          have hbody (payload_le) : body ⟨header, address, command, (first :: rest).dropLast,
              payload_le⟩ = header :: size :: address :: command :: (first :: rest).dropLast := by
            rw [body, Frame.size, hbyte]
          rw [bytes, check, hbody, List.cons_append, List.cons_append, List.cons_append,
            List.cons_append, List.dropLast_append_getLast? _ hlast]
        · cases h
      · cases h

/-- A frame with one byte changed is no valid window. -/
theorem decode?_set {frame : Frame} {index : Nat} {old byte : UInt8}
    (hold : frame.bytes[index]? = some old) (hne : byte ≠ old) :
    decode? (frame.bytes.set index byte) = none := by
  cases hdecode : decode? (frame.bytes.set index byte) with
  | none => rfl
  | some other =>
      have hzero : checksum (frame.bytes.set index byte) = 0 := by
        rw [eq_bytes_of_decode? hdecode, checksum_bytes]
      rw [checksum_set hold, checksum_bytes] at hzero
      exact absurd (by grind) hne

end Frame

end TagInventory
