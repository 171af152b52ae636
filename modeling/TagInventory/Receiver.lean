import TagInventory.Session

/-!
# Receiving a byte stream

Frames carry their size but no delimiter.  The receiver keeps the bytes that are not
part of a frame yet and looks for the next frame whenever a byte arrives
(`findFrame`): noise before a header is dropped, a header with an impossible size is
dropped alone, and a window with a wrong checksum is dropped whole.

`scan` cuts a whole byte string in the same way at once.
-/

namespace TagInventory

/-- Bytes that were dropped, and why. -/
inductive Fault
  | noise (bytes : List UInt8)
  | badSize (bytes : List UInt8)
  | corrupt (bytes : List UInt8)
  deriving DecidableEq, Repr

namespace Fault

def bytes : Fault → List UInt8
  | noise bytes => bytes
  | badSize bytes => bytes.take 1
  | corrupt bytes => bytes

def notice : Fault → Notice
  | noise bytes => .noiseDiscarded bytes
  | badSize bytes => .badFrameSize bytes
  | corrupt bytes => .corruptFrame bytes

end Fault

/-! ### One look at a buffer -/

/-- What the first bytes of a buffer allow. -/
inductive Look
  | wait
  /-- The bytes are no frame. -/
  | drop (fault : Fault) (rest : List UInt8)
  | found (frame : Frame) (rest : List UInt8)

/-- The number of bytes that the frame at the head of a buffer claims, size byte and
header included. -/
def claimedSize : List UInt8 → Nat
  | _ :: size :: _ => size.toNat + 2
  | _ => 0

def look (buffer : List UInt8) : Look :=
  if buffer.length < minFrameSize then .wait
  else if buffer.head? ≠ some frameHeader then
    .drop (.noise (buffer.takeWhile (· != frameHeader))) (buffer.dropWhile (· != frameHeader))
  else if claimedSize buffer < minFrameSize then
    .drop (.badSize (buffer.take 2)) (buffer.drop 1)
  else if buffer.length < claimedSize buffer then .wait
  else
    let window := buffer.take (claimedSize buffer)
    let rest := buffer.drop (claimedSize buffer)
    match Frame.decode? window with
    | some frame => .found frame rest
    | none => .drop (.corrupt window) rest

/-- A buffer that does not begin with a header has noise to drop. -/
private theorem length_dropWhile_lt {buffer : List UInt8} (hne : buffer ≠ [])
    (h : buffer.head? ≠ some frameHeader) :
    (buffer.dropWhile (· != frameHeader)).length < buffer.length := by
  cases buffer with
  | nil => exact absurd rfl hne
  | cons byte rest =>
    have hbyte : (byte != frameHeader) = true := by
      simpa using h
    rw [List.dropWhile_cons_of_pos (p := (· != frameHeader)) hbyte, List.length_cons]
    have := (List.dropWhile_sublist (l := rest) (· != frameHeader)).length_le
    omega

theorem length_lt_of_look_drop {buffer rest : List UInt8} {fault : Fault}
    (h : look buffer = .drop fault rest) : rest.length < buffer.length := by
  unfold look at h
  split at h
  · cases h
  · rename_i hlong
    have hne : buffer ≠ [] := by
      intro hnil
      simp [hnil, minFrameSize] at hlong
    have hpos : 0 < buffer.length := List.length_pos_iff.mpr hne
    split at h
    · rename_i hhead
      cases h
      exact length_dropWhile_lt hne hhead
    · split at h
      · cases h
        simp only [List.length_drop]
        omega
      · rename_i hsize
        split at h
        · cases h
        · dsimp only at h
          split at h
          · cases h
          · cases h
            simp only [List.length_drop]
            simp only [minFrameSize] at hsize
            omega

theorem length_lt_of_look_found {buffer rest : List UInt8} {frame : Frame}
    (h : look buffer = .found frame rest) : rest.length < buffer.length := by
  unfold look at h
  split at h
  · cases h
  · rename_i hlong
    split at h
    · cases h
    · split at h
      · cases h
      · rename_i hsize
        split at h
        · cases h
        · dsimp only at h
          split at h
          · cases h
            simp only [List.length_drop]
            simp only [minFrameSize] at hsize hlong
            omega
          · cases h

/-! ### The next frame -/

/-- What a buffer gives: the bytes dropped on the way, the frame that was reached, if any,
and what is left. -/
structure Finding where
  faults : List Fault
  frame : Option Frame
  rest : List UInt8

/-- Looks until a frame is found or more bytes are needed.  What follows a found frame is
not looked at. -/
def findFrame (buffer : List UInt8) : Finding :=
  match h : look buffer with
  | .wait => ⟨[], none, buffer⟩
  | .found frame rest => ⟨[], some frame, rest⟩
  | .drop fault rest =>
    have := length_lt_of_look_drop h
    let next := findFrame rest
    { next with faults := fault :: next.faults }
  termination_by buffer.length

/-- The valid frames of a byte string, in order. -/
def scan (bytes : List UInt8) : List Frame :=
  match h : look bytes with
  | .wait => []
  | .found frame rest =>
    have := length_lt_of_look_found h
    frame :: scan rest
  | .drop _ rest =>
    have := length_lt_of_look_drop h
    scan rest
  termination_by bytes.length

/-! ### Receivers -/

/-- The bytes that wait for the rest of their frame, and what the frames before said. -/
structure Receiver where
  buffer : List UInt8
  session : Session
  deriving DecidableEq, Repr

namespace Receiver

def initial : Receiver where
  buffer := []
  session := .initial

def find (receiver : Receiver) (byte : UInt8) : Finding :=
  findFrame (receiver.buffer ++ [byte])

/-- The reply that a byte completes. -/
def replyTo? (receiver : Receiver) (byte : UInt8) : Option Reply :=
  (receiver.find byte).frame.bind Reply.ofFrame?

def push (receiver : Receiver) (byte : UInt8) : Receiver :=
  let finding := receiver.find byte
  { buffer := finding.rest
    session :=
      match finding.frame with
      | some frame => receiver.session.applyFrame frame
      | none => receiver.session }

def noticesOf (receiver : Receiver) (byte : UInt8) : List Notice :=
  let finding := receiver.find byte
  finding.faults.map Fault.notice ++
    match finding.frame with
    | some frame => frame.notices ++ Session.noticesOf frame
    | none => []

def feed (receiver : Receiver) (bytes : List UInt8) : Receiver :=
  bytes.foldl push receiver

/-- The replies that some bytes complete, in order. -/
def repliesTo (receiver : Receiver) : List UInt8 → List Reply
  | [] => []
  | byte :: bytes => (receiver.replyTo? byte).toList ++ (receiver.push byte).repliesTo bytes

def noticesOfAll (receiver : Receiver) : List UInt8 → List Notice
  | [] => []
  | byte :: bytes => receiver.noticesOf byte ++ (receiver.push byte).noticesOfAll bytes

@[simp] theorem feed_nil (receiver : Receiver) : receiver.feed [] = receiver := rfl

@[simp] theorem feed_cons (receiver : Receiver) (byte : UInt8) (bytes : List UInt8) :
    receiver.feed (byte :: bytes) = (receiver.push byte).feed bytes := rfl

/-- Bytes may come in any pieces. -/
theorem feed_append (receiver : Receiver) (first second : List UInt8) :
    receiver.feed (first ++ second) = (receiver.feed first).feed second := by
  simp [feed]

/-- Replies do not depend on how the bytes are cut into pieces. -/
theorem repliesTo_append (receiver : Receiver) (first second : List UInt8) :
    receiver.repliesTo (first ++ second) =
      receiver.repliesTo first ++ (receiver.feed first).repliesTo second := by
  induction first generalizing receiver with
  | nil => rfl
  | cons byte rest ih => simp [repliesTo, ih]

end Receiver

end TagInventory
