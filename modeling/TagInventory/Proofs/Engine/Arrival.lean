import TagInventory.Proofs.Encoding
import TagInventory.Proofs.Engine.Invariant

/-!
# Frames that arrive one byte at a time

While no part of a frame is in the buffer, the bytes of a frame do nothing until the last
one of them, and then they do what the reply of the frame does, all at once
(`Core.receiveAll_frame`).  Noise that was left over goes with the frame.
-/

namespace TagInventory

/-! ## The bytes of one frame -/

theorem fromHeader_eq_nil {noise : List UInt8} (h : frameHeader ∉ noise) :
    fromHeader noise = [] := by
  rw [fromHeader_eq, List.dropWhile_eq_nil_iff]
  intro byte hbyte
  have hne : byte ≠ frameHeader := by
    rintro rfl
    exact h hbyte
  simpa using hne

/-- Noise in front of a string makes no difference. -/
theorem validWindows_noise {noise : List UInt8} (h : frameHeader ∉ noise) (bytes : List UInt8) :
    validWindows (noise ++ bytes) = validWindows bytes := by
  rw [validWindows, ← windows_fromHeader_append, fromHeader_eq_nil h, List.nil_append, validWindows]

namespace Frame

variable {frame : Frame}

theorem claimedSize_bytes (frame : Frame) : claimedSize frame.bytes = frame.bytes.length := by
  rw [length_bytes]
  show frame.size.toNat + 2 = _
  rw [toNat_size, minFrameSize]

theorem head?_bytes (h : frame.header = frameHeader) : frame.bytes.head? = some frameHeader := by
  rw [← h]
  rfl

theorem validWindows_part (h : frame.header = frameHeader) {sent rest : List UInt8}
    (hbytes : frame.bytes = sent ++ rest) (hrest : rest ≠ []) : validWindows sent = [] := by
  have hlength : sent.length < frame.bytes.length := by
    have hpos := List.length_pos_iff.mpr hrest
    rw [hbytes, List.length_append]
    omega
  by_cases hshort : sent.length < minFrameSize
  · exact validWindows_of_wait (waiting_of_short hshort)
  have hsize : claimedSize sent = frame.bytes.length := by
    rw [← claimedSize_bytes, hbytes,
      claimedSize_append sent rest (by simp only [minFrameSize] at hshort; omega)]
  have hhead : sent.head? = some frameHeader := by
    have hne : sent ≠ [] := by
      rintro rfl
      exact hshort (by decide)
    obtain ⟨first, tail, rfl⟩ := List.exists_cons_of_ne_nil hne
    have hfirst := head?_bytes h
    rw [hbytes] at hfirst
    exact hfirst
  have hwait : look sent = .wait := by
    rw [look, if_neg hshort, if_neg (by rw [hhead]; simp), if_neg (by omega), if_pos (by omega)]
  exact validWindows_of_wait hwait

theorem look_bytes (h : frame.header = frameHeader) : look frame.bytes = .found frame [] := by
  have hsize := claimedSize_bytes frame
  have hlong : minFrameSize ≤ frame.bytes.length := by
    rw [length_bytes]
    omega
  rw [look, if_neg (by omega), if_neg (by rw [head?_bytes h]; simp), if_neg (by omega),
    if_neg (by omega)]
  simp only [hsize, List.take_length, List.drop_length, decode?_bytes]

/-- The bytes of a frame are one window. -/
theorem validWindows_bytes (h : frame.header = frameHeader) :
    validWindows frame.bytes = [frame] := by
  have hfound := validWindows_of_found (look_bytes h) []
  rwa [List.append_nil, List.append_nil, validWindows_nil] at hfound

end Frame

namespace Receiver

variable {receiver : Receiver} {frame : Frame}

/-- Nothing of a frame is in the buffer. -/
structure Idle (receiver : Receiver) : Prop where
  waiting : Waiting receiver.buffer
  noise : frameHeader ∉ receiver.buffer

theorem framesIn_part (hidle : receiver.Idle) (h : frame.header = frameHeader)
    {sent rest : List UInt8} (hbytes : frame.bytes = sent ++ rest) (hrest : rest ≠ []) :
    receiver.framesIn sent = [] := by
  rw [framesIn_eq_validWindows receiver hidle.waiting, validWindows_noise hidle.noise,
    Frame.validWindows_part h hbytes hrest]

theorem framesIn_bytes (hidle : receiver.Idle) (h : frame.header = frameHeader) :
    receiver.framesIn frame.bytes = [frame] := by
  rw [framesIn_eq_validWindows receiver hidle.waiting, validWindows_noise hidle.noise,
    Frame.validWindows_bytes h]

theorem framesIn_append (receiver : Receiver) (first second : List UInt8) :
    receiver.framesIn (first ++ second) =
      receiver.framesIn first ++ (receiver.feed first).framesIn second := by
  induction first generalizing receiver with
  | nil => rfl
  | cons byte first ih => simp [framesIn, ih]

/-- If some bytes complete one frame, and not without the last one, the last one does. -/
theorem frame_find_last {sent : List UInt8} {last : UInt8}
    (hsent : receiver.framesIn sent = []) (hall : receiver.framesIn (sent ++ [last]) = [frame]) :
    ((receiver.feed sent).find last).frame = some frame := by
  rw [framesIn_append, hsent, List.nil_append, framesIn, framesIn, List.append_nil] at hall
  exact Option.toList_eq_singleton_iff.mp hall

/-- The last byte of a frame completes it and leaves nothing behind. -/
theorem find_last (hidle : receiver.Idle) (h : frame.header = frameHeader) {sent : List UInt8}
    {last : UInt8} (hbytes : frame.bytes = sent ++ [last]) :
    ((receiver.feed sent).find last).frame = some frame ∧
      ((receiver.feed sent).push last).buffer = [] := by
  have hall := framesIn_bytes hidle h
  rw [hbytes] at hall
  have hframe := frame_find_last (framesIn_part hidle h hbytes (by simp)) hall
  refine ⟨hframe, ?_⟩
  exact (waiting_rest (waiting_feed hidle.waiting sent) last).2 frame hframe

end Receiver

namespace Core

variable {core : Core} {frame : Frame}

theorem receiveAll_append (core : Core) (first second : List UInt8) :
    core.receiveAll (first ++ second) = (core.receiveAll first).receiveAll second :=
  List.foldl_append

/-- Bytes that complete no frame are only kept. -/
theorem receiveAll_of_quiet {bytes : List UInt8} (h : core.receiver.framesIn bytes = []) :
    core.receiveAll bytes = { core with receiver := core.receiver.feed bytes } := by
  induction bytes generalizing core with
  | nil => rfl
  | cons byte bytes ih =>
      rw [Receiver.framesIn, List.append_eq_nil_iff] at h
      have hnone : core.receiver.replyTo? byte = none := by
        rw [Receiver.replyTo?, Option.toList_eq_nil_iff.mp h.1]
        rfl
      show (core.receive byte).receiveAll bytes = _
      rw [receive_of_none hnone, ih h.2]
      rfl

theorem receiveAll_part (hidle : core.receiver.Idle) (h : frame.header = frameHeader)
    {sent rest : List UInt8} (hbytes : frame.bytes = sent ++ rest) (hrest : rest ≠ []) :
    core.receiveAll sent = { core with receiver := core.receiver.feed sent } :=
  receiveAll_of_quiet (Receiver.framesIn_part hidle h hbytes hrest)

/-- A frame does what its reply does, and leaves the buffer empty. -/
theorem receiveAll_frame (hdrained : core.session.Drained) (hidle : core.receiver.Idle)
    (h : frame.header = frameHeader) {reply : Reply} (hreply : Reply.ofFrame? frame = some reply) :
    core.receiveAll frame.bytes = { core with
      receiver := ⟨[], (core.session.apply reply).drain⟩
      tags := match reply.tag? with
        | some tag => core.tags.record tag
        | none => core.tags
      waits := core.waitsAfter reply } := by
  have hbytes : frame.bytes = frame.body ++ [frame.check] := rfl
  obtain ⟨hframe, hbuffer⟩ := Receiver.find_last hidle h hbytes
  have hsession : (core.receiver.feed frame.body).session = core.receiver.session := by
    rw [Receiver.session_feed, Receiver.framesIn_part hidle h hbytes (by simp)]
    rfl
  have hlast : (core.receiver.feed frame.body).replyTo? frame.check = some reply := by
    rw [Receiver.replyTo?, hframe]
    exact hreply
  rw [hbytes, receiveAll_append, receiveAll_part hidle h hbytes (by simp)]
  show receive _ frame.check = _
  rw [receive_of_reply (by rw [session, hsession]; exact hdrained) hlast]
  simp only [hbuffer, session, hsession]
  rfl

end Core

end TagInventory
