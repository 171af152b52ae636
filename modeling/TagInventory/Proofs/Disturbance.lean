import TagInventory.Proofs.Checksum
import TagInventory.Proofs.Engine.Arrival

/-!
# Disturbances cost only the bytes that are disturbed

What comes over a disturbed line is a row of pieces: intact frames, frames with one byte
changed behind the size byte, noise without a header, and headers with a size that no frame
has.  The main statement is that a receiver completes exactly the intact frames of such a
row, each with its own last byte, whatever the other pieces are and however the bytes are
cut into chunks.

## Strategy

* `Cuts`: bytes at whose end a new window begins, whatever follows.  Every piece is of this
  kind, and the windows in front of its end are its intact frame, if it is one
  (`Piece.cuts`).
* `Receiver.Aligned`: the invariant between two pieces.  What is left in the buffer holds no
  window and takes no byte away from what follows.  It is kept because pieces are cut where
  they end (`Receiver.Aligned.feed`).
* A part of an intact frame completes nothing, which leaves its last byte
  (`Receiver.Aligned.completedBy_bytes`).
-/

namespace TagInventory

/-! ## Where windows begin -/

/-- The valid windows up to the end of some bytes are known, and the next one begins there,
whatever follows. -/
def Cuts (bytes : List UInt8) (frames : List Frame) : Prop :=
  ∀ more, validWindows (bytes ++ more) = frames ++ validWindows more

theorem Cuts.validWindows_eq {bytes : List UInt8} {frames : List Frame} (h : Cuts bytes frames) :
    validWindows bytes = frames := by
  have hall := h []
  rwa [List.append_nil, validWindows_nil, List.append_nil] at hall

theorem Cuts.append {first second : List UInt8} {frames others : List Frame}
    (hfirst : Cuts first frames) (hsecond : Cuts second others) :
    Cuts (first ++ second) (frames ++ others) := by
  intro more
  rw [List.append_assoc, hfirst, hsecond, List.append_assoc]

theorem cuts_noise {bytes : List UInt8} (h : frameHeader ∉ bytes) : Cuts bytes [] :=
  fun more => validWindows_noise h more

theorem cuts_of_drop {bytes : List UInt8} {fault : Fault} (h : look bytes = .drop fault []) :
    Cuts bytes [] :=
  fun more => validWindows_of_drop h more

theorem cuts_of_found {bytes : List UInt8} {frame : Frame} (h : look bytes = .found frame []) :
    Cuts bytes [frame] :=
  fun more => validWindows_of_found h more

/-- A header with an impossible size is noise, and its size byte is too. -/
theorem cuts_stray {size : UInt8} (h : size < 3) : Cuts [frameHeader, size] [] := by
  intro more
  have hsize : frameHeader ∉ [size] := by
    rw [List.mem_singleton]
    rintro rfl
    exact absurd h (by decide)
  by_cases hshort : ([frameHeader, size] ++ more).length < minFrameSize
  · have hmore : more.length < minFrameSize := by
      rw [List.length_append] at hshort
      omega
    rw [validWindows_of_wait (waiting_of_short hshort),
      validWindows_of_wait (waiting_of_short hmore), List.append_nil]
  · -- the size byte is no header, so that it is dropped as noise after the header
    have hclaimed : claimedSize ([frameHeader, size] ++ more) < minFrameSize := by
      have hlt : size.toNat < 3 := h
      show size.toNat + 2 < 5
      omega
    have hlook : look ([frameHeader, size] ++ more) =
        .drop (.badSize (([frameHeader, size] ++ more).take 2)) ([size] ++ more) := by
      rw [look, if_neg hshort, if_neg (by simp), if_pos hclaimed]
      rfl
    calc validWindows ([frameHeader, size] ++ more)
        = validWindows ([size] ++ more) := by simpa using validWindows_of_drop hlook []
      _ = validWindows more := validWindows_noise hsize more

/-- A frame with one byte changed behind its size byte is dropped whole. -/
theorem Frame.look_set {frame : Frame} (h : frame.header = frameHeader) {index : Nat}
    (hindex : 2 ≤ index) {old byte : UInt8} (hold : frame.bytes[index]? = some old)
    (hne : byte ≠ old) :
    look (frame.bytes.set index byte) = .drop (.corrupt (frame.bytes.set index byte)) [] := by
  have hlength : (frame.bytes.set index byte).length = frame.bytes.length := List.length_set
  have hlong : minFrameSize ≤ frame.bytes.length := by
    rw [length_bytes]
    omega
  -- header and size byte are in front of the change
  obtain ⟨rest, hrest⟩ :
      ∃ rest, frame.bytes.set index byte = frame.header :: frame.size :: rest := by
    obtain ⟨behind, rfl⟩ := Nat.exists_eq_add_of_le' hindex
    exact ⟨_, rfl⟩
  have hhead : (frame.bytes.set index byte).head? = some frameHeader := by
    rw [hrest, h]
    rfl
  have hsize : claimedSize (frame.bytes.set index byte) = frame.bytes.length := by
    rw [hrest, length_bytes]
    show frame.size.toNat + 2 = _
    rw [toNat_size, minFrameSize]
  -- every question of `look` but the last is answered as for the frame itself
  rw [look, if_neg (by omega), if_neg (by rw [hhead]; simp), if_neg (by omega),
    if_neg (by omega)]
  simp only [hsize, List.take_of_length_le (Nat.le_of_eq hlength),
    List.drop_of_length_le (Nat.le_of_eq hlength), decode?_set hold hne]

/-! ## Pieces of a disturbed line -/

/-- What may come over the line. -/
inductive Piece
  | intact (address command : UInt8) (payload : List UInt8)
  /-- A frame in which the byte at `index` was changed to `byte`. -/
  | damaged (address command : UInt8) (payload : List UInt8) (index : Nat) (byte : UInt8)
      (two_le : 2 ≤ index) (index_lt : index < (Frame.make address command payload).bytes.length)
      (changed : byte ≠ (Frame.make address command payload).bytes[index])
  | noise (bytes : List UInt8) (no_header : frameHeader ∉ bytes)
  /-- A header with a size that no frame has. -/
  | stray (size : UInt8) (size_lt : size < 3)

namespace Piece

def bytes : Piece → List UInt8
  | intact address command payload => (Frame.make address command payload).bytes
  | damaged address command payload index byte .. =>
    (Frame.make address command payload).bytes.set index byte
  | noise bytes _ => bytes
  | stray size _ => [frameHeader, size]

/-- The frame that a piece is. -/
def frame? : Piece → Option Frame
  | intact address command payload => some (Frame.make address command payload)
  | damaged .. | noise .. | stray .. => none

/-- What each byte of a piece completes: the last byte of an intact frame its frame, every
other byte nothing. -/
def completions (piece : Piece) : List (Option Frame) :=
  match piece.frame? with
  | some frame => List.replicate (piece.bytes.length - 1) none ++ [some frame]
  | none => List.replicate piece.bytes.length none

theorem completions_intact (address command : UInt8) (payload : List UInt8) :
    (intact address command payload).completions =
      List.replicate (Frame.make address command payload).body.length none ++
        [some (Frame.make address command payload)] := by
  have hlength : (intact address command payload).bytes.length - 1 =
      (Frame.make address command payload).body.length := by
    rw [bytes, Frame.bytes, List.length_append]
    rfl
  rw [← hlength]
  rfl

/-- A piece is cut off where it ends. -/
theorem cuts (piece : Piece) : Cuts piece.bytes piece.frame?.toList := by
  cases piece with
  | intact address command payload => exact cuts_of_found (Frame.look_bytes rfl)
  | damaged address command payload index byte two_le index_lt changed =>
      exact cuts_of_drop
        (Frame.look_set rfl two_le (List.getElem?_eq_getElem index_lt) changed)
  | noise bytes no_header => exact cuts_noise no_header
  | stray size size_lt => exact cuts_stray size_lt

theorem cuts_row (pieces : List Piece) :
    Cuts (pieces.flatMap bytes) (pieces.filterMap frame?) := by
  induction pieces with
  | nil => exact fun _ => rfl
  | cons piece pieces ih =>
      have hframes : (piece :: pieces).filterMap frame? =
          piece.frame?.toList ++ pieces.filterMap frame? := by
        cases hframe : piece.frame? <;> simp [hframe]
      rw [List.flatMap_cons, hframes]
      exact piece.cuts.append ih

end Piece

/-! ## What each byte completes -/

namespace Receiver

variable {receiver : Receiver}

/-- The frame that each of some bytes completes, pushed one at a time. -/
def completedBy (receiver : Receiver) : List UInt8 → List (Option Frame)
  | [] => []
  | byte :: bytes => (receiver.find byte).frame :: (receiver.push byte).completedBy bytes

theorem completedBy_append (receiver : Receiver) (first second : List UInt8) :
    receiver.completedBy (first ++ second) =
      receiver.completedBy first ++ (receiver.feed first).completedBy second := by
  induction first generalizing receiver with
  | nil => rfl
  | cons byte first ih => simp [completedBy, ih]

/-- Bytes that complete no frame complete nothing one by one. -/
theorem completedBy_of_quiet {bytes : List UInt8} (h : receiver.framesIn bytes = []) :
    receiver.completedBy bytes = List.replicate bytes.length none := by
  induction bytes generalizing receiver with
  | nil => rfl
  | cons byte bytes ih =>
      rw [framesIn, List.append_eq_nil_iff] at h
      rw [completedBy, Option.toList_eq_nil_iff.mp h.1, ih h.2, List.length_cons,
        List.replicate_succ]

theorem completedBy_of_last {sent : List UInt8} {last : UInt8} {frame : Frame}
    (hsent : receiver.framesIn sent = []) (hall : receiver.framesIn (sent ++ [last]) = [frame]) :
    receiver.completedBy (sent ++ [last]) = List.replicate sent.length none ++ [some frame] := by
  rw [completedBy_append, completedBy_of_quiet hsent, completedBy, completedBy,
    frame_find_last hsent hall]

/-! ## Between two pieces -/

/-- What is left in the buffer holds no frame, whatever comes, and takes nothing away from
what follows. -/
structure Aligned (receiver : Receiver) : Prop where
  quiet : ∀ bytes, validWindows (receiver.feed bytes).buffer = []
  clean : Cuts receiver.buffer []

/-- Noise in the buffer goes with the next byte, or there is too little of it to decide. -/
theorem waiting_push_of_noise (h : frameHeader ∉ receiver.buffer) (byte : UInt8) :
    Waiting (receiver.push byte).buffer := by
  show Waiting (findFrame (receiver.buffer ++ [byte])).rest
  -- only the new byte can be a header, so that at most this byte is left after a drop
  by_cases hshort : (receiver.buffer ++ [byte]).length < minFrameSize
  · have hwait := waiting_of_short hshort
    rwa [findFrame_of_waiting hwait]
  · have hhead : (receiver.buffer ++ [byte]).head? ≠ some frameHeader := by
      intro hfirst
      cases hbuffer : receiver.buffer with
      | nil =>
          rw [hbuffer] at hshort
          exact hshort (by simp [minFrameSize])
      | cons first rest =>
          rw [hbuffer] at h hfirst
          cases hfirst
          exact h List.mem_cons_self
    -- what is left begins with the first header, and this can only be the last byte
    have hlook : look (receiver.buffer ++ [byte]) =
        .drop (.noise ((receiver.buffer ++ [byte]).takeWhile (· != frameHeader)))
          (fromHeader [byte]) := by
      rw [look, if_neg hshort, if_pos hhead, ← fromHeader_eq, fromHeader_append,
        fromHeader_eq_nil h]
      rfl
    have hwait : Waiting (fromHeader [byte]) := by
      have hle := length_fromHeader_le [byte]
      rw [List.length_singleton] at hle
      exact waiting_of_short (Nat.lt_of_le_of_lt hle (by decide))
    rwa [findFrame_of_drop hlook, findFrame_of_waiting hwait]

theorem aligned_of_noise (h : frameHeader ∉ receiver.buffer) : receiver.Aligned where
  quiet := by
    rintro (_ | ⟨byte, bytes⟩)
    · exact (cuts_noise h).validWindows_eq
    · exact validWindows_of_wait (waiting_feed (waiting_push_of_noise h byte) bytes)
  clean := cuts_noise h

namespace Aligned

/-- An aligned receiver completes what a new one would. -/
theorem framesIn_eq (haligned : receiver.Aligned) (bytes : List UInt8) :
    receiver.framesIn bytes = validWindows bytes := by
  calc receiver.framesIn bytes
      = receiver.framesIn bytes ++ validWindows ((receiver.feed bytes).buffer ++ []) := by
        rw [List.append_nil, haligned.quiet, List.append_nil]
    _ = validWindows (receiver.buffer ++ bytes ++ []) := (receiver.validWindows_feed bytes []).symm
    _ = validWindows bytes := by rw [List.append_nil, haligned.clean, List.nil_append]

theorem feed (haligned : receiver.Aligned) {bytes : List UInt8} {frames : List Frame}
    (h : Cuts bytes frames) : (receiver.feed bytes).Aligned where
  quiet := by
    intro more
    rw [← feed_append]
    exact haligned.quiet _
  clean := by
    intro more
    have hframes : receiver.framesIn bytes = frames := by
      rw [haligned.framesIn_eq, h.validWindows_eq]
    have hall :=
      calc frames ++ validWindows ((receiver.feed bytes).buffer ++ more)
          = validWindows (receiver.buffer ++ bytes ++ more) := by
            rw [receiver.validWindows_feed, hframes]
        _ = validWindows (bytes ++ more) := by
            rw [List.append_assoc, haligned.clean, List.nil_append]
        _ = frames ++ validWindows more := h more
    -- both sides begin with the frames that the bytes complete
    exact List.append_cancel_left hall

/-- Each byte of a piece completes what it should. -/
theorem completedBy_bytes (haligned : receiver.Aligned) (piece : Piece) :
    receiver.completedBy piece.bytes = piece.completions := by
  have hframes : receiver.framesIn piece.bytes = piece.frame?.toList := by
    rw [haligned.framesIn_eq, piece.cuts.validWindows_eq]
  cases piece with
  | intact address command payload =>
      -- the checksum byte is still missing when the body has arrived
      have hbody : receiver.framesIn (Frame.make address command payload).body = [] := by
        rw [haligned.framesIn_eq]
        exact Frame.validWindows_part (Frame.header_make address command payload) rfl
          (List.cons_ne_nil _ _)
      rw [Piece.completions_intact]
      exact completedBy_of_last hbody hframes
  | damaged address command payload index byte two_le index_lt changed =>
      exact completedBy_of_quiet hframes
  | noise bytes no_header => exact completedBy_of_quiet hframes
  | stray size size_lt => exact completedBy_of_quiet hframes

/-- A row of pieces completes its intact frames, each with its own last byte.  The induction
is on the row; between two pieces the receiver is another one, but aligned again. -/
theorem completedBy_pieces (haligned : receiver.Aligned) (pieces : List Piece) :
    receiver.completedBy (pieces.flatMap Piece.bytes) = pieces.flatMap Piece.completions := by
  induction pieces generalizing receiver with
  | nil => rfl
  | cons piece pieces ih =>
      rw [List.flatMap_cons, List.flatMap_cons, completedBy_append, haligned.completedBy_bytes,
        ih (haligned.feed piece.cuts)]

end Aligned

/-- **Disturbances cost only the bytes that are disturbed.**  Whatever chunks a row of
pieces is cut into, a receiver without a header in its buffer completes the intact frames
of the row in order, each with its own last byte, and nothing else; its replies are those of
the intact frames, and its session has taken over exactly these. -/
theorem completed_of_pieces (hnoise : frameHeader ∉ receiver.buffer) {pieces : List Piece}
    {chunks : List (List UInt8)} (hchunks : chunks.flatten = pieces.flatMap Piece.bytes) :
    receiver.completedBy chunks.flatten = pieces.flatMap Piece.completions ∧
      (receiver.repliesToChunks chunks).flatten =
        (pieces.filterMap Piece.frame?).filterMap Reply.ofFrame? ∧
      (receiver.feedChunks chunks).session =
        (pieces.filterMap Piece.frame?).foldl Session.applyFrame receiver.session := by
  have haligned := aligned_of_noise hnoise
  have hframes : receiver.framesIn chunks.flatten = pieces.filterMap Piece.frame? := by
    rw [haligned.framesIn_eq, hchunks, (Piece.cuts_row pieces).validWindows_eq]
  refine ⟨?_, ?_, ?_⟩
  · rw [hchunks, haligned.completedBy_pieces]
  · rw [flatten_repliesToChunks, repliesTo_eq_filterMap, hframes]
  · rw [feedChunks_eq_feed, session_feed, hframes]

/-- A count of tags, with a header byte in it, after noise, a stray header and the same count
with its last byte changed. -/
private def disturbedCount : List Piece :=
  [.noise [0x07] (by decide), .stray 0x02 (by decide),
    .damaged broadcastAddress Command.getInventoryBufferTagCount.code [0x00, 0xA0] 6 0x00
      (by decide) (by decide) (by decide),
    .intact broadcastAddress Command.getInventoryBufferTagCount.code [0x00, 0xA0]]

theorem completed_of_disturbedCount :
    let receiver : Receiver := ⟨[0x01, 0x02], .initial⟩
    let bytes := disturbedCount.flatMap Piece.bytes
    frameHeader ∉ receiver.buffer ∧
      [bytes.take 9, bytes.drop 9].flatten = bytes ∧
      receiver.completedBy bytes =
        List.replicate 16 none ++ [some (.make broadcastAddress 0x92 [0x00, 0xA0])] ∧
      (receiver.repliesToChunks [bytes.take 9, bytes.drop 9]).flatten =
        [⟨.getInventoryBufferTagCount, .ok (.bufferTagCount 160)⟩] := by
  intro receiver bytes
  have hnoise : frameHeader ∉ receiver.buffer := by decide
  have hchunks : [bytes.take 9, bytes.drop 9].flatten = disturbedCount.flatMap Piece.bytes := by
    decide
  obtain ⟨hcompleted, hreplies, -⟩ := completed_of_pieces hnoise hchunks
  refine ⟨hnoise, hchunks, ?_, ?_⟩
  · rw [hchunks] at hcompleted
    exact hcompleted.trans (by decide)
  · exact hreplies.trans rfl

end Receiver

end TagInventory
