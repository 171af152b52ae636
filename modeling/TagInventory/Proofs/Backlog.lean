import Mathlib.Logic.ExistsUnique
import TagInventory.Proofs.Codec
import TagInventory.Proofs.Reassembly

/-!
# What waits in the buffer

A receiver looks at its buffer in rounds, and a round that is not the last one takes bytes
away.  So the rounds come to an end (`Settles`), whatever is in the buffer.

Between two bytes the buffer of a receiver holds the last bytes that came, and they are no
frame yet: they are fewer than the smallest frame has, or they begin a window and do not fill
it.  This is the invariant `Waiting`, spelled out by `Waiting.incomplete`.  The bytes inside a
window that has begun belong to this window, whatever they look like.
-/

namespace TagInventory

/-! ## Rounds -/

/-- What the rounds over a buffer come to. -/
inductive Settles : List UInt8 → Finding → Prop
  | wait {buffer : List UInt8} (h : look buffer = .wait) : Settles buffer ⟨[], none, buffer⟩
  | found {buffer rest : List UInt8} {frame : Frame} (h : look buffer = .found frame rest) :
      Settles buffer ⟨[], some frame, rest⟩
  | drop {buffer rest : List UInt8} {fault : Fault} {finding : Finding}
      (h : look buffer = .drop fault rest) (hrest : Settles rest finding) :
      Settles buffer { finding with faults := fault :: finding.faults }

theorem settles_findFrame (buffer : List UInt8) : Settles buffer (findFrame buffer) := by
  fun_induction findFrame buffer with
  | case1 buffer h => exact .wait h
  | case2 buffer frame rest h => exact .found h
  | case3 buffer fault rest h _ next ih => exact .drop h ih

theorem Settles.eq_findFrame {buffer : List UInt8} {finding : Finding}
    (h : Settles buffer finding) : finding = findFrame buffer := by
  induction h with
  | wait h => rw [findFrame_of_waiting h]
  | found h => rw [findFrame_of_found h]
  | drop h hrest ih => rw [findFrame_of_drop h, ← ih]

/-- The rounds over a buffer end, in one way. -/
theorem existsUnique_settles (buffer : List UInt8) : ∃! finding, Settles buffer finding :=
  ⟨findFrame buffer, settles_findFrame buffer, fun _ h => h.eq_findFrame⟩

/-- What a round leaves is the end of the buffer. -/
theorem suffix_of_look_drop {buffer rest : List UInt8} {fault : Fault}
    (h : look buffer = .drop fault rest) : rest <:+ buffer := by
  have hcase := look_case buffer
  rw [h] at hcase
  cases hcase with
  | noise => exact List.dropWhile_suffix _
  | badSize => exact List.drop_suffix _ _
  | corrupt => exact List.drop_suffix _ _

theorem suffix_of_look_found {buffer rest : List UInt8} {frame : Frame}
    (h : look buffer = .found frame rest) : rest <:+ buffer := by
  have hcase := look_case buffer
  rw [h] at hcase
  cases hcase with
  | valid => exact List.drop_suffix _ _

theorem Settles.suffix {buffer : List UInt8} {finding : Finding} (h : Settles buffer finding) :
    finding.rest <:+ buffer := by
  induction h with
  | wait h => exact List.suffix_rfl
  | found h => exact suffix_of_look_found h
  | drop h hrest ih => exact ih.trans (suffix_of_look_drop h)

/-! ## Between two bytes -/

/-- What waits is too short for a frame, or it is a window that has begun. -/
theorem Waiting.incomplete {buffer : List UInt8} (h : Waiting buffer) :
    buffer.length < 5 ∨ ∃ size rest, buffer = 0xA0 :: size :: rest ∧ 3 ≤ size.toNat ∧
      buffer.length < size.toNat + 2 := by
  have hcase := look_case buffer
  rw [h] at hcase
  cases hcase with
  | short hshort => exact .inl hshort
  | incomplete hlong hhead hsize hpart =>
      match buffer, hlong with
      | header :: size :: rest, _ =>
          obtain rfl : header = 0xA0 := Option.some.inj hhead
          have hclaimed : 5 ≤ size.toNat + 2 := hsize
          exact .inr ⟨size, rest, rfl, by omega, hpart⟩

/-- What waits begins with no frame. -/
theorem Waiting.decode?_take {buffer : List UInt8} (h : Waiting buffer) (count : Nat) :
    Frame.decode? (buffer.take count) = none := by
  rw [← Option.not_isSome_iff_eq_none, Frame.isSome_decode?_iff]
  rintro ⟨hlong, ⟨size, hsize, hcounts⟩, -⟩
  have hle : (buffer.take count).length ≤ buffer.length := List.length_take_le' ..
  rcases h.incomplete with hshort | ⟨announced, rest, rfl, -, hpart⟩
  · omega
  · -- the size byte of such a frame is that of the window, which is not full
    have hcount : 1 < count := by
      have hle : (List.take count (0xA0 :: announced :: rest)).length ≤ count :=
        List.length_take_le ..
      omega
    obtain rfl : announced = size := by
      rw [List.getElem?_take_of_lt hcount] at hsize
      exact Option.some.inj hsize
    omega

/-- A byte that completes a window, valid or not, leaves nothing behind. -/
theorem rest_of_completed {buffer : List UInt8} (h : Waiting buffer) {byte : UInt8}
    (hcompleted : windows (buffer ++ [byte]) ≠ []) : (findFrame (buffer ++ [byte])).rest = [] := by
  rcases look_append_byte h byte with hwait | ⟨fault, rest, hdrop, hshort⟩ | ⟨frame, hfound⟩
  · exact absurd (windows_of_wait hwait) hcompleted
  · -- what is dropped is the window, since what is left is too short for one
    have hnone : windows rest = [] := windows_of_wait (waiting_of_short hshort)
    rw [findFrame_of_drop hdrop, findFrame_of_waiting (waiting_of_short hshort)]
    have hcase := look_case (buffer ++ [byte])
    rw [hdrop] at hcase
    cases hcase with
    | noise =>
        rw [windows_fromHeader] at hnone
        exact absurd hnone hcompleted
    | badSize hlong hhead hsmall =>
        rw [← windows_of_badSize _ hlong hhead hsmall] at hnone
        exact absurd hnone hcompleted
    | corrupt hhead hsize => exact drop_claimedSize_append_byte h byte hsize
  · -- and what is found is found at the end of the buffer
    rw [findFrame_of_found hfound]

namespace Receiver

theorem buffer_feed_suffix (receiver : Receiver) (bytes : List UInt8) :
    (receiver.feed bytes).buffer <:+ receiver.buffer ++ bytes := by
  induction bytes generalizing receiver with
  | nil => exact ⟨[], (List.append_nil receiver.buffer).symm⟩
  | cons byte bytes ih =>
      obtain ⟨dropped, hdropped⟩ : (receiver.push byte).buffer <:+ receiver.buffer ++ [byte] :=
        (settles_findFrame _).suffix
      have hall : (receiver.push byte).buffer ++ bytes <:+ receiver.buffer ++ byte :: bytes := by
        refine ⟨dropped, ?_⟩
        rw [← List.append_assoc, hdropped, List.append_assoc, List.singleton_append]
      exact (ih (receiver.push byte)).trans hall

/-- **What waits in the buffer.**  After any bytes a new receiver holds the last of them.

* They are fewer than five, or they begin with the header and a size of at least three, and
  are fewer than this size announces; so there are at most 256 of them.
* No beginning of them is a frame, and no window in them is complete.
* The next byte leaves the buffer empty when it completes a window, whether this is a frame or
  corrupt, and whatever command it names.

Every round over a buffer takes at least one byte away if it is not the last one, and the
rounds over every buffer end, in one way. -/
theorem buffer_of_pushed :
    (∀ bytes, let receiver := initial.feed bytes
      receiver.buffer <:+ bytes ∧
      (receiver.buffer.length < 5 ∨
        ∃ size rest, receiver.buffer = 0xA0 :: size :: rest ∧ 3 ≤ size.toNat ∧
          receiver.buffer.length < size.toNat + 2) ∧
      receiver.buffer.length ≤ 256 ∧
      (∀ count, Frame.decode? (receiver.buffer.take count) = none) ∧
      windows receiver.buffer = [] ∧
      ∀ byte, windows (receiver.buffer ++ [byte]) ≠ [] → (receiver.push byte).buffer = []) ∧
    (∀ buffer fault rest, look buffer = .drop fault rest → rest.length < buffer.length) ∧
    ∀ buffer, ∃! finding, Settles buffer finding := by
  refine ⟨?_, fun _ _ _ => length_lt_of_look_drop, existsUnique_settles⟩
  intro bytes receiver
  have hwaiting : Waiting receiver.buffer := waiting_feed (waiting_of_short (by decide)) bytes
  have hincomplete := hwaiting.incomplete
  refine ⟨buffer_feed_suffix initial bytes, hincomplete, ?_, hwaiting.decode?_take,
    windows_of_wait hwaiting, fun byte => rest_of_completed hwaiting⟩
  -- the size byte of the window that has begun is less than 256
  rcases hincomplete with hshort | ⟨size, rest, -, -, hpart⟩
  · omega
  · have hsize := size.toNat_lt
    omega

/-- A byte of noise, and a frame to which the checksum is missing. -/
private def unfinishedFrame : List UInt8 :=
  [0x07, 0xA0, 0x03, 0xFF, 0x72]

theorem buffer_of_wrongChecksum :
    let receiver := initial.feed unfinishedFrame
    receiver.buffer = [0xA0, 0x03, 0xFF, 0x72] ∧
      (∃ fault, look unfinishedFrame = .drop fault receiver.buffer ∧
        receiver.buffer.length < unfinishedFrame.length) ∧
      windows (receiver.buffer ++ [0x00]) ≠ [] ∧ (receiver.push 0x00).buffer = [] := by
  intro receiver
  obtain ⟨hbytes, hround, -⟩ := buffer_of_pushed
  obtain ⟨-, -, -, -, -, hcompleted⟩ := hbytes unfinishedFrame
  have hbuffer : receiver.buffer = [0xA0, 0x03, 0xFF, 0x72] := by decide +kernel
  have hwindow : windows (receiver.buffer ++ [0x00]) ≠ [] := by
    rw [hbuffer, windows_of_complete _ rfl (by decide) (by decide)]
    exact List.cons_ne_nil _ _
  have hlook : look unfinishedFrame = .drop (.noise [0x07]) receiver.buffer := by
    rw [hbuffer]
    rfl
  exact ⟨hbuffer, ⟨_, hlook, hround _ _ _ hlook⟩, hwindow, hcompleted 0x00 hwindow⟩

end Receiver

end TagInventory
