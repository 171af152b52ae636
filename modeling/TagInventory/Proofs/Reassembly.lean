import Mathlib.Data.List.DropRight
import TagInventory.Receiver

/-!
# Reassembly refines a batch parser

A receiver sees a byte string one byte at a time and decides on whatever happens to be in
its buffer.  `windows` reads the whole string at once: it goes to the next header, cuts
off the window that the header announces, and goes on behind it.  The main statement is
that both give the same frames, however the string is cut.

## Strategy

* `scan_eq_validWindows`: the frames that `look` leads to are those of `windows`.
* `validWindows_findFrame`: one search takes the first frame off the front of the buffer, whatever
  follows.  This needs no invariant.
* `Waiting`: the invariant.  Between two bytes nothing can be decided about the buffer, so
  that no frame is left behind in it (`validWindows_of_wait`).  It is kept because one more
  byte lets at most one frame end, and that frame ends with the byte (`waiting_rest`).
-/

namespace TagInventory

/-! ## Cutting a string at once -/

/-- The bytes from the first header on. -/
def fromHeader (bytes : List UInt8) : List UInt8 :=
  bytes.dropWhile (· != 0xA0)

theorem fromHeader_eq (bytes : List UInt8) :
    fromHeader bytes = bytes.dropWhile (· != frameHeader) := rfl

theorem length_fromHeader_le (bytes : List UInt8) : (fromHeader bytes).length ≤ bytes.length :=
  (List.dropWhile_sublist _).length_le

/-- The length of the window that a string begins with: the second byte counts what follows it. -/
def windowSize : List UInt8 → Nat
  | _ :: size :: _ => size.toNat + 2
  | _ => 0

/-- The windows of a byte string.  Bytes before a header are skipped, a header with an
impossible size is skipped alone, and the string ends with the first window that is not
complete. -/
def windows (bytes : List UInt8) : List (List UInt8) :=
  if (fromHeader bytes).length < 5 then []
  else if windowSize (fromHeader bytes) < 5 then
    windows ((fromHeader bytes).drop 1)
  else if (fromHeader bytes).length < windowSize (fromHeader bytes) then []
  else
    (fromHeader bytes).take (windowSize (fromHeader bytes)) ::
      windows ((fromHeader bytes).drop (windowSize (fromHeader bytes)))
  termination_by bytes.length
  decreasing_by
    all_goals
      have hle := length_fromHeader_le bytes
      simp only [List.length_drop] at *
      omega

/-- The receiver reads the same length off its buffer. -/
theorem windowSize_eq_claimedSize (bytes : List UInt8) : windowSize bytes = claimedSize bytes := by
  match bytes with
  | [] | [_] | _ :: _ :: _ => rfl

/-- The cutting in the terms in which the receiver looks at its buffer. -/
theorem windows_eq (bytes : List UInt8) :
    windows bytes =
      if (fromHeader bytes).length < minFrameSize then []
      else if claimedSize (fromHeader bytes) < minFrameSize then
        windows ((fromHeader bytes).drop 1)
      else if (fromHeader bytes).length < claimedSize (fromHeader bytes) then []
      else
        (fromHeader bytes).take (claimedSize (fromHeader bytes)) ::
          windows ((fromHeader bytes).drop (claimedSize (fromHeader bytes))) := by
  rw [windows, windowSize_eq_claimedSize, minFrameSize]

theorem windows_fromHeader (bytes : List UInt8) : windows (fromHeader bytes) = windows bytes := by
  have hidem : fromHeader (fromHeader bytes) = fromHeader bytes :=
    List.dropWhile_idempotent _ _
  rw [windows_eq, hidem, ← windows_eq]

theorem fromHeader_of_head {bytes : List UInt8} (h : bytes.head? = some frameHeader) :
    fromHeader bytes = bytes := by
  cases bytes with
  | nil => rfl
  | cons byte rest =>
      obtain rfl : byte = frameHeader := by simpa using h
      simp [fromHeader_eq]

theorem fromHeader_append (first second : List UInt8) :
    fromHeader (first ++ second) =
      if (fromHeader first).isEmpty then fromHeader second else fromHeader first ++ second :=
  List.dropWhile_append

/-- Noise in front of a string stays noise when more bytes follow. -/
theorem windows_fromHeader_append (noise more : List UInt8) :
    windows (fromHeader noise ++ more) = windows (noise ++ more) := by
  rw [← windows_fromHeader (noise ++ more), fromHeader_append]
  by_cases hnone : fromHeader noise = []
  · rw [hnone, List.isEmpty_nil, if_pos rfl, List.nil_append, windows_fromHeader]
  · rw [if_neg (by simpa using hnone)]

/-! ## What `look` decides -/

/-- The cases of `look`, each with the condition under which it is taken. -/
inductive LookCase (buffer : List UInt8) : Look → Prop
  | short (hshort : buffer.length < minFrameSize) : LookCase buffer .wait
  | noise (hlong : minFrameSize ≤ buffer.length) (hhead : buffer.head? ≠ some frameHeader) :
      LookCase buffer
        (.drop (.noise (buffer.takeWhile (· != frameHeader))) (fromHeader buffer))
  | badSize (hlong : minFrameSize ≤ buffer.length) (hhead : buffer.head? = some frameHeader)
      (hsmall : claimedSize buffer < minFrameSize) :
      LookCase buffer (.drop (.badSize (buffer.take 2)) (buffer.drop 1))
  | incomplete (hlong : minFrameSize ≤ buffer.length)
      (hhead : buffer.head? = some frameHeader) (hsize : minFrameSize ≤ claimedSize buffer)
      (hpart : buffer.length < claimedSize buffer) : LookCase buffer .wait
  | valid (hhead : buffer.head? = some frameHeader)
      (hsize : minFrameSize ≤ claimedSize buffer)
      (hfull : claimedSize buffer ≤ buffer.length) {frame : Frame}
      (hdecode : Frame.decode? (buffer.take (claimedSize buffer)) = some frame) :
      LookCase buffer (.found frame (buffer.drop (claimedSize buffer)))
  | corrupt (hhead : buffer.head? = some frameHeader)
      (hsize : minFrameSize ≤ claimedSize buffer)
      (hfull : claimedSize buffer ≤ buffer.length)
      (hdecode : Frame.decode? (buffer.take (claimedSize buffer)) = none) :
      LookCase buffer
        (.drop (.corrupt (buffer.take (claimedSize buffer)))
          (buffer.drop (claimedSize buffer)))

theorem look_case (buffer : List UInt8) : LookCase buffer (look buffer) := by
  -- the cases are the questions that `look` asks, in their order
  unfold look
  split
  · rename_i hshort
    exact .short hshort
  rename_i hlong
  split
  · rename_i hhead
    exact .noise (by omega) hhead
  rename_i hhead
  split
  · rename_i hsmall
    exact .badSize (by omega) (by simpa using hhead) hsmall
  rename_i hsize
  split
  · rename_i hpart
    exact .incomplete (by omega) (by simpa using hhead) (by omega) hpart
  rename_i hfull
  dsimp only
  split
  · rename_i hdecode
    exact .valid (by simpa using hhead) (by omega) (by omega) hdecode
  · rename_i hdecode
    exact .corrupt (by simpa using hhead) (by omega) (by omega) hdecode

theorem claimedSize_append (buffer more : List UInt8) (h : 2 ≤ buffer.length) :
    claimedSize (buffer ++ more) = claimedSize buffer := by
  match buffer, h with
  | _ :: _ :: _, _ => rfl

theorem head?_append_of_head (buffer more : List UInt8) (h : buffer.head? = some frameHeader) :
    (buffer ++ more).head? = some frameHeader := by
  simp [List.head?_append, h]

/-- Behind a header with an impossible size, cutting goes on after one byte. -/
theorem windows_of_badSize (buffer : List UInt8) (hlong : minFrameSize ≤ buffer.length)
    (hhead : buffer.head? = some frameHeader) (hsmall : claimedSize buffer < minFrameSize) :
    windows buffer = windows (buffer.drop 1) := by
  rw [windows_eq, fromHeader_of_head hhead, if_neg (by omega), if_pos hsmall]

theorem windows_of_complete (buffer : List UInt8) (hhead : buffer.head? = some frameHeader)
    (hsize : minFrameSize ≤ claimedSize buffer) (hfull : claimedSize buffer ≤ buffer.length) :
    windows buffer =
      buffer.take (claimedSize buffer) :: windows (buffer.drop (claimedSize buffer)) := by
  rw [windows_eq, fromHeader_of_head hhead, if_neg (by omega), if_neg (by omega),
    if_neg (by omega)]

theorem windows_of_wait {buffer : List UInt8} (h : look buffer = .wait) : windows buffer = [] := by
  have hcase := look_case buffer
  rw [h] at hcase
  cases hcase with
  | short hshort =>
      have hle := length_fromHeader_le buffer
      rw [windows_eq, if_pos (by omega)]
  | incomplete hlong hhead hsize hpart =>
      rw [windows_eq, fromHeader_of_head hhead, if_neg (by omega), if_neg (by omega), if_pos hpart]

/-! ## Looking takes windows off the front -/

/-- The windows that decode, in order. -/
def validWindows (bytes : List UInt8) : List Frame :=
  (windows bytes).filterMap Frame.decode?

/-- What is dropped from the front of a string holds no valid window. -/
theorem validWindows_of_drop {buffer rest : List UInt8} {fault : Fault}
    (h : look buffer = .drop fault rest) (more : List UInt8) :
    validWindows (buffer ++ more) = validWindows (rest ++ more) := by
  have hcase := look_case buffer
  rw [h] at hcase
  unfold validWindows
  cases hcase with
  | noise hlong hhead => rw [windows_fromHeader_append]
  -- the header goes, and the size byte that made it impossible stays
  | badSize hlong hhead hsmall =>
      have hdrop : (buffer ++ more).drop 1 = buffer.drop 1 ++ more :=
        List.drop_append_of_le_length (by simp only [minFrameSize] at hlong; omega)
      have hclaim := claimedSize_append buffer more (by simp only [minFrameSize] at hlong; omega)
      rw [windows_of_badSize (buffer ++ more) (by rw [List.length_append]; omega)
        (head?_append_of_head buffer more hhead) (by rw [hclaim]; exact hsmall), hdrop]
  -- the whole window goes, and it was no valid one
  | corrupt hhead hsize hfull hdecode =>
      have hclaim := claimedSize_append buffer more (by simp only [minFrameSize] at hsize; omega)
      rw [windows_of_complete (buffer ++ more) (head?_append_of_head buffer more hhead)
        (by rw [hclaim]; exact hsize) (by rw [hclaim, List.length_append]; omega), hclaim,
        List.take_append_of_le_length hfull, List.drop_append_of_le_length hfull,
        List.filterMap_cons_none hdecode]

/-- A frame that `look` finds is the first valid window. -/
theorem validWindows_of_found {buffer rest : List UInt8} {frame : Frame}
    (h : look buffer = .found frame rest) (more : List UInt8) :
    validWindows (buffer ++ more) = frame :: validWindows (rest ++ more) := by
  have hcase := look_case buffer
  rw [h] at hcase
  unfold validWindows
  cases hcase with
  | valid hhead hsize hfull hdecode =>
      have hclaim := claimedSize_append buffer more (by simp only [minFrameSize] at hsize; omega)
      rw [windows_of_complete (buffer ++ more) (head?_append_of_head buffer more hhead)
        (by rw [hclaim]; exact hsize) (by rw [hclaim, List.length_append]; omega), hclaim,
        List.take_append_of_le_length hfull, List.drop_append_of_le_length hfull,
        List.filterMap_cons_some hdecode]

theorem validWindows_of_wait {buffer : List UInt8} (h : look buffer = .wait) :
    validWindows buffer = [] := by
  rw [validWindows, windows_of_wait h, List.filterMap_nil]

/-- The frames that repeated looking leads to are the valid windows. -/
theorem scan_eq_validWindows (bytes : List UInt8) : scan bytes = validWindows bytes := by
  fun_induction scan bytes with
  | case1 bytes h => rw [validWindows_of_wait h]
  | case2 bytes frame rest h _ ih =>
      have htake := validWindows_of_found h []
      simp only [List.append_nil] at htake
      rw [htake, ih]
  | case3 bytes fault rest h _ ih =>
      have hskip := validWindows_of_drop h []
      simp only [List.append_nil] at hskip
      rw [hskip, ih]

/-- A search takes the first valid window off the front of the buffer, if there is one,
and leaves the others to the bytes that follow. -/
theorem validWindows_findFrame (buffer more : List UInt8) :
    validWindows (buffer ++ more) =
      (findFrame buffer).frame.toList ++ validWindows ((findFrame buffer).rest ++ more) := by
  fun_induction findFrame buffer with
  | case1 buffer h => simp
  | case2 buffer frame rest h =>
      rw [validWindows_of_found h]
      rfl
  | case3 buffer fault rest h _ next ih => rw [validWindows_of_drop h, ih]

/-! ## What is left in the buffer between two bytes -/

/-- Nothing can be decided about the buffer before more bytes arrive. -/
def Waiting (buffer : List UInt8) : Prop :=
  look buffer = .wait

theorem waiting_of_short {buffer : List UInt8} (h : buffer.length < minFrameSize) :
    Waiting buffer := by
  unfold Waiting look
  rw [if_pos h]

theorem validWindows_nil : validWindows [] = [] :=
  validWindows_of_wait (waiting_of_short (Nat.zero_lt_succ _))

theorem findFrame_of_waiting {buffer : List UInt8} (h : Waiting buffer) :
    findFrame buffer = ⟨[], none, buffer⟩ := by
  unfold Waiting at h
  rw [findFrame]
  split <;> simp_all

theorem findFrame_of_found {buffer rest : List UInt8} {frame : Frame}
    (h : look buffer = .found frame rest) : findFrame buffer = ⟨[], some frame, rest⟩ := by
  rw [findFrame]
  split <;> simp_all

theorem findFrame_of_drop {buffer rest : List UInt8} {fault : Fault}
    (h : look buffer = .drop fault rest) :
    findFrame buffer = { findFrame rest with faults := fault :: (findFrame rest).faults } := by
  rw [findFrame]
  split <;> simp_all

/-- A window that is complete with one more byte was one byte short, so that nothing is left
behind it. -/
theorem drop_claimedSize_append_byte {buffer : List UInt8} (h : Waiting buffer) (byte : UInt8)
    (hsize : minFrameSize ≤ claimedSize (buffer ++ [byte])) :
    (buffer ++ [byte]).drop (claimedSize (buffer ++ [byte])) = [] := by
  have hlength : (buffer ++ [byte]).length = buffer.length + 1 := by simp
  apply List.drop_eq_nil_of_le
  have hbefore := look_case buffer
  rw [h] at hbefore
  cases hbefore with
  | short hshort => omega
  | incomplete hlong _ _ hpart =>
      rw [claimedSize_append buffer [byte] (by simp only [minFrameSize] at hlong; omega)]
      omega

/-- One more byte ends at most one window, and no byte is left behind that window; what
is dropped leaves less than the smallest frame. -/
theorem look_append_byte {buffer : List UInt8} (h : Waiting buffer) (byte : UInt8) :
    Waiting (buffer ++ [byte]) ∨
      (∃ fault rest, look (buffer ++ [byte]) = .drop fault rest ∧ rest.length < minFrameSize) ∨
      ∃ frame, look (buffer ++ [byte]) = .found frame [] := by
  have hlength : (buffer ++ [byte]).length = buffer.length + 1 := by simp
  have hcase := look_case (buffer ++ [byte])
  cases hlook : look (buffer ++ [byte]) with
  | wait => exact .inl hlook
  | found frame rest =>
      rw [hlook] at hcase
      cases hcase with
      | valid hhead hsize _ _ =>
          exact .inr (.inr ⟨frame, by rw [drop_claimedSize_append_byte h byte hsize]⟩)
  | drop fault rest =>
      refine .inr (.inl ⟨fault, rest, rfl, ?_⟩)
      have hlt := length_lt_of_look_drop hlook
      have hbefore := look_case buffer
      rw [h] at hbefore
      cases hbefore with
      | short hshort => omega
      | incomplete hlong hhead hsize _ =>
          -- the size byte was there before, so that only the last byte of the window can be new
          have hclaim := claimedSize_append buffer [byte]
            (by simp only [minFrameSize] at hlong; omega)
          rw [hlook] at hcase
          cases hcase with
          | noise _ hnoise => exact absurd (head?_append_of_head buffer [byte] hhead) hnoise
          | badSize _ _ hsmall => omega
          | corrupt _ hsize' _ _ =>
              rw [drop_claimedSize_append_byte h byte hsize']
              decide

/-- The buffer after one more byte is waiting again, and it is empty when the byte ended a
frame. -/
theorem waiting_rest {buffer : List UInt8} (h : Waiting buffer) (byte : UInt8) :
    Waiting (findFrame (buffer ++ [byte])).rest ∧
      ∀ frame, (findFrame (buffer ++ [byte])).frame = some frame →
        (findFrame (buffer ++ [byte])).rest = [] := by
  rcases look_append_byte h byte with hwait | ⟨fault, rest, hdrop, hshort⟩ | ⟨frame, hfound⟩
  · rw [findFrame_of_waiting hwait]
    exact ⟨hwait, by simp⟩
  · rw [findFrame_of_drop hdrop, findFrame_of_waiting (waiting_of_short hshort)]
    exact ⟨waiting_of_short hshort, by simp⟩
  · rw [findFrame_of_found hfound]
    exact ⟨waiting_of_short (by simp [minFrameSize]), by simp⟩

namespace Receiver

/-! ## Receivers -/

/-- The frames that some bytes complete, pushed one at a time. -/
def framesIn (receiver : Receiver) : List UInt8 → List Frame
  | [] => []
  | byte :: bytes => (receiver.find byte).frame.toList ++ (receiver.push byte).framesIn bytes

theorem repliesTo_eq_filterMap (receiver : Receiver) (bytes : List UInt8) :
    receiver.repliesTo bytes = (receiver.framesIn bytes).filterMap Reply.ofFrame? := by
  induction bytes generalizing receiver with
  | nil => rfl
  | cons byte bytes ih =>
      rw [repliesTo, framesIn, List.filterMap_append, ih, replyTo?]
      cases (receiver.find byte).frame with
      | none => rfl
      | some frame => cases hreply : Reply.ofFrame? frame <;> simp [hreply]

theorem session_push (receiver : Receiver) (byte : UInt8) :
    (receiver.push byte).session =
      (receiver.find byte).frame.toList.foldl Session.applyFrame receiver.session := by
  simp only [push]
  cases (receiver.find byte).frame <;> rfl

theorem session_feed (receiver : Receiver) (bytes : List UInt8) :
    (receiver.feed bytes).session =
      (receiver.framesIn bytes).foldl Session.applyFrame receiver.session := by
  induction bytes generalizing receiver with
  | nil => rfl
  | cons byte bytes ih =>
      rw [feed_cons, framesIn, List.foldl_append, ih, session_push]

theorem waiting_push {receiver : Receiver} (h : Waiting receiver.buffer) (byte : UInt8) :
    Waiting (receiver.push byte).buffer :=
  (waiting_rest h byte).1

theorem waiting_feed {receiver : Receiver} (h : Waiting receiver.buffer) (bytes : List UInt8) :
    Waiting (receiver.feed bytes).buffer := by
  induction bytes generalizing receiver with
  | nil => exact h
  | cons byte bytes ih => exact ih (waiting_push h byte)

/-- The valid windows of the buffer and the bytes to come are the frames that some of these
bytes complete, and then those of what is left. -/
theorem validWindows_feed (receiver : Receiver) (bytes more : List UInt8) :
    validWindows (receiver.buffer ++ bytes ++ more) =
      receiver.framesIn bytes ++ validWindows ((receiver.feed bytes).buffer ++ more) := by
  induction bytes generalizing receiver with
  | nil => simp [framesIn]
  | cons byte bytes ih =>
      have hbyte : receiver.buffer ++ byte :: bytes ++ more =
          (receiver.buffer ++ [byte]) ++ (bytes ++ more) := by simp
      rw [hbyte, validWindows_findFrame, framesIn, feed_cons, List.append_assoc, ← ih,
        List.append_assoc]
      rfl

/-- A receiver completes exactly the valid windows of its buffer and the bytes it gets. -/
theorem framesIn_eq_validWindows (receiver : Receiver) (h : Waiting receiver.buffer)
    (bytes : List UInt8) :
    receiver.framesIn bytes = validWindows (receiver.buffer ++ bytes) := by
  have hall := validWindows_feed receiver bytes []
  rw [List.append_nil, List.append_nil, validWindows_of_wait (waiting_feed h bytes),
    List.append_nil] at hall
  exact hall.symm

/-- The replies to chunks of bytes that are fed one after the other, chunk by chunk. -/
def repliesToChunks (receiver : Receiver) : List (List UInt8) → List (List Reply)
  | [] => []
  | chunk :: chunks => receiver.repliesTo chunk :: (receiver.feed chunk).repliesToChunks chunks

/-- The receiver after chunks of bytes. -/
def feedChunks (receiver : Receiver) (chunks : List (List UInt8)) : Receiver :=
  chunks.foldl feed receiver

theorem flatten_repliesToChunks (receiver : Receiver) (chunks : List (List UInt8)) :
    (receiver.repliesToChunks chunks).flatten = receiver.repliesTo chunks.flatten := by
  induction chunks generalizing receiver with
  | nil => rfl
  | cons chunk chunks ih =>
      rw [repliesToChunks, List.flatten_cons, List.flatten_cons, repliesTo_append, ih]

theorem feedChunks_eq_feed (receiver : Receiver) (chunks : List (List UInt8)) :
    receiver.feedChunks chunks = receiver.feed chunks.flatten := by
  induction chunks generalizing receiver with
  | nil => rfl
  | cons chunk chunks ih =>
      rw [List.flatten_cons, feed_append, ← ih]
      rfl

/-- **Reassembly refines the batch parser.**  Whatever bytes a new receiver gets, and
however they are cut into chunks, its replies are those of the valid windows of the whole
string in order, they name the commands of these windows, and its session has taken over
exactly these windows. -/
theorem replies_of_chunks (chunks : List (List UInt8)) :
    (initial.repliesToChunks chunks).flatten =
        (validWindows chunks.flatten).filterMap Reply.ofFrame? ∧
      (initial.repliesToChunks chunks).flatten.map Reply.command =
        (validWindows chunks.flatten).filterMap
          (fun frame => (Reply.ofFrame? frame).map Reply.command) ∧
      (initial.feedChunks chunks).session =
        (validWindows chunks.flatten).foldl Session.applyFrame .initial := by
  have hframes : initial.framesIn chunks.flatten = validWindows chunks.flatten :=
    framesIn_eq_validWindows initial (waiting_of_short (by decide)) _
  have hreplies : (initial.repliesToChunks chunks).flatten =
      (validWindows chunks.flatten).filterMap Reply.ofFrame? := by
    rw [flatten_repliesToChunks, repliesTo_eq_filterMap, hframes]
  refine ⟨hreplies, ?_, ?_⟩
  · rw [hreplies, List.map_filterMap]
  · rw [feedChunks_eq_feed, session_feed, hframes]
    rfl

end Receiver

end TagInventory
