import TagInventory.Proofs.Codec

/-!
# Which damage to a frame is detected

A valid window carries two totals of itself: its size byte counts its bytes, and its checksum
sums them up.  One changed byte moves the sum, wherever it is, and bytes that are missing or
too many at the end contradict the size byte, which stays where it was.  So no valid window is
one byte away from another one, and none is the beginning of another one
(`eq_of_prefix_of_isSome`): the receiver need not look behind a window to know its end.
-/

namespace TagInventory

namespace Frame

variable {window : List UInt8}

/-- A valid window that begins with a valid window is this window. -/
theorem eq_of_prefix_of_isSome {longer : List UInt8} (hbegins : window <+: longer)
    (hwindow : (decode? window).isSome = true) (hlonger : (decode? longer).isSome = true) :
    window = longer := by
  obtain ⟨hlong, ⟨size, hsize, hcounts⟩, -⟩ := (isSome_decode?_iff window).mp hwindow
  obtain ⟨-, ⟨announced, hannounced, hannounces⟩, -⟩ := (isSome_decode?_iff longer).mp hlonger
  -- both have one size byte, since the shorter one is long enough to hold it
  obtain ⟨rest, rfl⟩ := hbegins
  obtain rfl : size = announced := by
    rw [List.getElem?_append_left (by omega), hsize] at hannounced
    exact Option.some.inj hannounced
  have hrest : rest = [] := by
    rw [List.length_append] at hannounces
    exact List.eq_nil_of_length_eq_zero (by omega)
  rw [hrest, List.append_nil]

/-- A frame that begins with a frame is this frame. -/
theorem eq_of_prefix_bytes {first second : Frame} (h : first.bytes <+: second.bytes) :
    first = second := by
  have hsome (frame : Frame) : (decode? frame.bytes).isSome = true := by
    rw [decode?_bytes]
    rfl
  have hbytes := congrArg decode? (eq_of_prefix_of_isSome h (hsome first) (hsome second))
  rw [decode?_bytes, decode?_bytes] at hbytes
  exact Option.some.inj hbytes

/-- **One changed byte, and bytes missing or added at the end, are detected.**  From a valid
window comes no valid window when one byte of it is changed, header, size byte and checksum
included, when it is cut off anywhere, and when anything follows it.  In particular no frame
begins with another frame. -/
theorem damage_detected :
    (∀ window, (decode? window).isSome = true →
      (∀ index byte, (hindex : index < window.length) → byte ≠ window[index] →
        decode? (window.set index byte) = none) ∧
      (∀ part, part <+: window → part ≠ window → decode? part = none) ∧
      ∀ longer, window <+: longer → longer ≠ window → decode? longer = none) ∧
    ∀ first second : Frame, first.bytes <+: second.bytes → first = second := by
  refine ⟨?_, fun _ _ => eq_of_prefix_bytes⟩
  intro window hwindow
  refine ⟨?_, ?_, ?_⟩
  · intro index byte hindex hne
    obtain ⟨frame, hframe⟩ := Option.isSome_iff_exists.mp hwindow
    obtain rfl := eq_bytes_of_decode? hframe
    exact decode?_set (List.getElem?_eq_getElem hindex) hne
  · intro part hpart hne
    rw [← Option.not_isSome_iff_eq_none]
    intro hsome
    exact hne (eq_of_prefix_of_isSome hpart hsome hwindow)
  · intro longer hlonger hne
    rw [← Option.not_isSome_iff_eq_none]
    intro hsome
    exact hne (eq_of_prefix_of_isSome hlonger hwindow hsome).symm

/-- An answer to a firmware query with its size byte changed, without its checksum, and with
another answer behind it. -/
theorem damage_detected_firmware :
    let window := (make broadcastAddress Command.getFirmwareVersion.code [0x01, 0x02]).bytes
    (decode? window).isSome = true ∧ decode? (window.set 1 0x04) = none ∧
      decode? (window.take 6) = none ∧ decode? (window ++ window) = none := by
  intro window
  have hwindow : (decode? window).isSome = true := by decide
  obtain ⟨hchanged, hcut, hextended⟩ := damage_detected.1 window hwindow
  exact ⟨hwindow, hchanged 1 0x04 (by decide) (by decide),
    hcut (window.take 6) ⟨window.drop 6, List.take_append_drop 6 window⟩ (by decide),
    hextended (window ++ window) (List.prefix_append window window) (by decide)⟩

end Frame

end TagInventory
