import TagInventory.Proofs.Access.Record
import TagInventory.Proofs.Codec
import TagInventory.Proofs.Reassembly

/-!
# A byte stream, access by access

The way of a byte through the receiver, written in the same way: the search for the next frame in
the buffer, the window that is cut off, and the response that it holds.  No byte leads to a breach,
whatever is in the buffer (`Receiver.pushAt_eq`).

An access is in range because of a test that was made before it, often elsewhere.  The least size
of a frame is why a buffer has a second byte and a window a last one; the size byte, which the
reader may set as it likes, is compared with the length of the buffer before anything is cut off.
-/

namespace TagInventory

/-! ## Frames -/

namespace Frame

/-- Reads one frame that fills the window.  The last test is always passed, since the size byte of
a window that has got so far leaves no room for a longer payload. -/
def decodeAt (window : List UInt8) : Checked (Option Frame) := do
  if window.length < minFrameSize then return none
  let (body, trailer) ← cutAt window (← subtract window.length 1)
  let check ← byteAt trailer 0
  if checksum body ≠ check then return none
  let size ← byteAt window 1
  if size.toNat + 2 ≠ window.length then return none
  let header ← byteAt window 0
  let address ← byteAt window 2
  let command ← byteAt window 3
  let (_, payload) ← cutAt body 4
  if h : payload.length ≤ maxPayloadSize then
    return some ⟨header, address, command, payload, h⟩
  return none

/-- A window that is long enough has the bytes of a frame, whatever they say. -/
theorem short_or_window (window : List UInt8) :
    window.length < minFrameSize ∨ ∃ header size address command payload check,
      window = header :: size :: address :: command :: (payload ++ [check]) := by
  match window with
  | [] | [_] | [_, _] | [_, _, _] | [_, _, _, _] => exact .inl (by simp [minFrameSize])
  | header :: size :: address :: command :: first :: rest =>
      refine .inr ⟨header, size, address, command, (first :: rest).dropLast,
        (first :: rest).getLast (List.cons_ne_nil first rest), ?_⟩
      rw [List.dropLast_concat_getLast]

/-- A window is a frame when its size byte and its checksum are right. -/
theorem decode?_window {header size address command check : UInt8} {payload : List UInt8}
    {frame : Frame} :
    decode? (header :: size :: address :: command :: (payload ++ [check])) = some frame ↔
      size.toNat = payload.length + 3 ∧
        checksum (header :: size :: address :: command :: payload) = check ∧
        ∃ hle, frame = ⟨header, address, command, payload, hle⟩ := by
  rw [decode?_eq_some_iff]
  constructor
  · intro h
    simp only [bytes, body, List.cons_append, List.cons.injEq] at h
    obtain ⟨rfl, rfl, rfl, rfl, htail⟩ := h
    obtain ⟨rfl, hcheck⟩ := List.append_inj' htail rfl
    exact ⟨frame.toNat_size, (List.cons.inj hcheck).1.symm, frame.payload_le, rfl⟩
  · rintro ⟨hsize, rfl, hle, rfl⟩
    have hbyte : Frame.size ⟨header, address, command, payload, hle⟩ = size := by
      apply UInt8.toNat_inj.mp
      rw [toNat_size, hsize]
    rw [bytes, check, body, hbyte]
    rfl

theorem decodeAt_eq (window : List UInt8) : decodeAt window = pure (decode? window) := by
  rcases short_or_window window with
    hshort | ⟨header, size, address, command, payload, check, rfl⟩
  · have hnone : decode? window = none := by
      rw [← Option.not_isSome_iff_eq_none, isSome_decode?_iff]
      exact fun hlong => Nat.not_le.mpr hshort hlong.1
    rw [decodeAt, if_pos hshort, hnone]
  · -- the last byte and the four first ones are where they are cut off
    have hlength : (header :: size :: address :: command :: (payload ++ [check])).length =
        payload.length + 5 := by simp
    have hlast : subtract (payload.length + 5) 1 = pure (payload.length + 4) :=
      subtract_of_le (Nat.le_add_left 1 _)
    have hcut : cutAt (header :: size :: address :: command :: (payload ++ [check]))
        (payload.length + 4) = pure (header :: size :: address :: command :: payload, [check]) :=
      cutAt_append (header :: size :: address :: command :: payload) [check]
    have hpayload : cutAt (header :: size :: address :: command :: payload) 4 =
        pure ([header, size, address, command], payload) :=
      cutAt_append [header, size, address, command] payload
    have hlong : ¬payload.length + 5 < minFrameSize := Nat.not_lt.mpr (Nat.le_add_left 5 _)
    rw [decodeAt, hlength, if_neg hlong, hlast]
    simp only [pure_bind, hcut, hpayload, byteAt, List.getElem?_cons_zero, List.getElem?_cons_succ]
    by_cases hcheck : checksum (header :: size :: address :: command :: payload) = check
    · by_cases hsize : size.toNat = payload.length + 3
      · -- the size byte bounds the payload
        have hle : payload.length ≤ maxPayloadSize := by
          have hlt := size.toNat_lt
          show payload.length ≤ 252
          omega
        rw [decode?_window.mpr ⟨hsize, hcheck, hle, rfl⟩, if_neg (not_not.mpr hcheck),
          if_neg (by omega), dif_pos hle]
      · have hnone :
            decode? (header :: size :: address :: command :: (payload ++ [check])) = none := by
          rw [Option.eq_none_iff_forall_ne_some]
          exact fun frame hframe => hsize (decode?_window.mp hframe).1
        rw [hnone, if_neg (not_not.mpr hcheck), if_pos (by omega)]
    · have hnone :
          decode? (header :: size :: address :: command :: (payload ++ [check])) = none := by
        rw [Option.eq_none_iff_forall_ne_some]
        exact fun frame hframe => hcheck (decode?_window.mp hframe).2.1
      rw [hnone, if_pos hcheck]

end Frame

/-! ## Looking for the next frame -/

/-- One look at a buffer. -/
def lookAt (buffer : List UInt8) : Checked Look := do
  if buffer.length < minFrameSize then return .wait
  if (← byteAt buffer 0) ≠ frameHeader then
    let (noise, rest) ← cutAt buffer (buffer.findIdx (· == frameHeader))
    return .drop (.noise noise) rest
  let size := (← byteAt buffer 1).toNat + 2
  if size < minFrameSize then
    let (stray, _) ← cutAt buffer 2
    let (_, rest) ← cutAt buffer 1
    return .drop (.badSize stray) rest
  if buffer.length < size then return .wait
  let (window, rest) ← cutAt buffer size
  match ← Frame.decodeAt window with
  | some frame => return .found frame rest
  | none => return .drop (.corrupt window) rest

theorem cutAt_header (buffer : List UInt8) :
    cutAt buffer (buffer.findIdx (· == frameHeader)) =
      pure (buffer.takeWhile (· != frameHeader), buffer.dropWhile (· != frameHeader)) := by
  have hindex : buffer.findIdx (· == frameHeader) =
      buffer.findIdx fun byte => !(byte != frameHeader) := by
    simp only [bne, Bool.not_not]
  rw [cutAt_of_le List.findIdx_le_length, hindex, ← List.takeWhile_eq_take_findIdx_not,
    ← List.dropWhile_eq_drop_findIdx_not]

theorem lookAt_eq (buffer : List UInt8) : lookAt buffer = pure (look buffer) := by
  rw [lookAt, look]
  by_cases hshort : buffer.length < minFrameSize
  · rw [if_pos hshort, if_pos hshort]
  have hlong : 2 ≤ buffer.length := (show 2 ≤ 5 by decide).trans (Nat.not_lt.mp hshort)
  rw [if_neg hshort, if_neg hshort]
  -- a buffer that is long enough has a header byte and a size byte
  match buffer, hlong with
  | header :: size :: rest, hlong =>
      have hfirst : byteAt (header :: size :: rest) 0 = pure header := rfl
      have hsecond : byteAt (header :: size :: rest) 1 = pure size := rfl
      have hclaimed : claimedSize (header :: size :: rest) = size.toNat + 2 := rfl
      simp only [hfirst, hsecond, hclaimed, pure_bind, List.head?_cons, ne_eq, Option.some.injEq]
      by_cases hheader : header = frameHeader
      case neg =>
        rw [if_pos hheader, if_pos hheader, cutAt_header, pure_bind]
      rw [if_neg (not_not.mpr hheader), if_neg (not_not.mpr hheader)]
      by_cases hsmall : size.toNat + 2 < minFrameSize
      · rw [if_pos hsmall, if_pos hsmall, cutAt_of_le hlong, cutAt_of_le (Nat.le_of_succ_le hlong)]
        rfl
      rw [if_neg hsmall, if_neg hsmall]
      by_cases hpart : (header :: size :: rest).length < size.toNat + 2
      · rw [if_pos hpart, if_pos hpart]
      rw [if_neg hpart, if_neg hpart, cutAt_of_le (Nat.not_lt.mp hpart)]
      simp only [pure_bind, Frame.decodeAt_eq]
      cases Frame.decode? (List.take (size.toNat + 2) (header :: size :: rest)) with
      | some frame => rfl
      | none => rfl

/-- Looks until a frame is found or more bytes are needed. -/
def findFrameAt (buffer : List UInt8) : Checked Finding :=
  match h : lookAt buffer with
  | .error breach => throw breach
  | .ok .wait => return ⟨[], none, buffer⟩
  | .ok (.found frame rest) => return ⟨[], some frame, rest⟩
  | .ok (.drop fault rest) => do
    have hlook : look buffer = .drop fault rest := Except.ok.inj ((lookAt_eq buffer).symm.trans h)
    have := length_lt_of_look_drop hlook
    let next ← findFrameAt rest
    return { next with faults := fault :: next.faults }
  termination_by buffer.length

theorem findFrameAt_eq (buffer : List UInt8) : findFrameAt buffer = pure (findFrame buffer) := by
  fun_induction findFrame buffer with
  | case1 buffer h =>
      have hlook : lookAt buffer = .ok .wait := (lookAt_eq buffer).trans (congrArg Except.ok h)
      rw [findFrameAt]
      split <;> simp_all
  | case2 buffer frame rest h =>
      have hlook : lookAt buffer = .ok (.found frame rest) :=
        (lookAt_eq buffer).trans (congrArg Except.ok h)
      rw [findFrameAt]
      split <;> simp_all
  | case3 buffer fault rest h _ next ih =>
      have hlook : lookAt buffer = .ok (.drop fault rest) :=
        (lookAt_eq buffer).trans (congrArg Except.ok h)
      rw [findFrameAt]
      split <;> simp_all [next]

/-! ## Replies -/

/-- A payload with a layout, or one byte alone. -/
def recordOrAt {α : Type} (payload : List UInt8) (decoder : List UInt8 → Checked (Option α))
    (done : α → Response) : Checked (Except DeviceError Response) := do
  if payload.length + 3 = 4 then return .error (statusError payload)
  let some value ← decoder payload | return .error .commandFail
  return .ok (done value)

theorem recordOrAt_eq {α : Type} {payload : List UInt8}
    {decoder : List UInt8 → Checked (Option α)} {decoded : Option α}
    (h : decoder payload = pure decoded) (done : α → Response) :
    recordOrAt payload decoder done = pure (recordOr payload decoded done) := by
  rw [recordOrAt, h, pure_bind]
  match payload with
  | [_] => rfl
  | [] | _ :: _ :: _ =>
      cases decoded with
      | some value => rfl
      | none => rfl

/-- Payloads of three commands are taken apart by places.  The others are compared as a whole, or
looked up at their first byte. -/
def Response.decodeAt (command : Command) (payload : List UInt8) :
    Checked (Except DeviceError Response) :=
  match command with
  | .inventory => recordOrAt payload inventorySummaryAt .inventoryDone
  | .read => recordOrAt payload readRecordAt .readTag
  | .getInventoryBuffer | .getAndResetInventoryBuffer =>
    recordOrAt payload bufferRecordAt .bufferedTag
  | _ => return decode command payload

theorem Response.decodeAt_eq (command : Command) (payload : List UInt8) :
    decodeAt command payload = pure (decode command payload) := by
  cases command with
  | inventory => exact recordOrAt_eq (inventorySummaryAt_eq payload) .inventoryDone
  | read => exact recordOrAt_eq (readRecordAt_eq payload) .readTag
  | getInventoryBuffer | getAndResetInventoryBuffer =>
      exact recordOrAt_eq (bufferRecordAt_eq payload) .bufferedTag
  | _ => rfl

def Reply.ofFrameAt (frame : Frame) : Checked (Option Reply) := do
  let some command := Command.ofCode? frame.command | return none
  if command.onWire then return some ⟨command, ← Response.decodeAt command frame.payload⟩
  return none

theorem Reply.ofFrameAt_eq (frame : Frame) : ofFrameAt frame = pure (ofFrame? frame) := by
  rw [ofFrameAt, ofFrame?]
  cases Command.ofCode? frame.command with
  | none => rfl
  | some command =>
      simp only [Response.decodeAt_eq, pure_bind]
      cases command.onWire with
      | true => rfl
      | false => rfl

/-- A byte arrives.  What comes out is the command that the frame answers which it completes, if
there is one. -/
def Receiver.pushAt (receiver : Receiver) (byte : UInt8) :
    Checked (Option Command × Receiver) := do
  let finding ← findFrameAt (receiver.buffer ++ [byte])
  let some frame := finding.frame | return (none, ⟨finding.rest, receiver.session⟩)
  let some reply ← Reply.ofFrameAt frame | return (none, ⟨finding.rest, receiver.session⟩)
  return (some reply.command, ⟨finding.rest, receiver.session.apply reply⟩)

/-- No byte makes a receiver access what is not there, whatever its buffer holds. -/
theorem Receiver.pushAt_eq (receiver : Receiver) (byte : UInt8) :
    receiver.pushAt byte =
      pure ((receiver.replyTo? byte).map Reply.command, receiver.push byte) := by
  rw [pushAt, findFrameAt_eq, pure_bind, replyTo?, push, find]
  cases (findFrame (receiver.buffer ++ [byte])).frame with
  | none => rfl
  | some frame =>
      simp only [Reply.ofFrameAt_eq, pure_bind, Option.bind_some, Session.applyFrame]
      cases Reply.ofFrame? frame with
      | none => rfl
      | some reply => rfl

end TagInventory
