import TagInventory.Proofs.Backlog
import TagInventory.Proofs.Disturbance

/-!
# A quiet line brings the receiver back into step

A header that is none, or one whose size byte was changed on the way, makes the receiver wait
for a window that nobody sent, and the frames behind it are taken for parts of this window.
The wait is bounded: a header that is still in the buffer has stayed there through all the bytes
that came after it (`Receiver.length_lt_of_header_mem`), and no more than 256 bytes wait
(`Waiting.length_le`).  So 256 bytes without a header take every header out of the buffer,
whatever came before, and the next frame is received as by a new receiver.

One byte fewer is not enough, since a header may be the last byte before the quiet ones, and the
first of these may announce the longest window (`Receiver.header_mem_of_longestWindow`).
-/

namespace TagInventory

/-! ## What can wait -/

theorem Waiting.length_le {buffer : List UInt8} (h : Waiting buffer) : buffer.length ≤ 256 := by
  rcases h.incomplete with hshort | ⟨size, rest, -, -, hpart⟩
  · omega
  · have hsize := size.toNat_lt
    omega

theorem Waiting.length_le_of_noise {buffer : List UInt8} (h : Waiting buffer)
    (hnoise : frameHeader ∉ buffer) : buffer.length ≤ 4 := by
  rcases h.incomplete with hshort | ⟨size, rest, rfl, -⟩
  · omega
  · exact absurd List.mem_cons_self hnoise

theorem waiting_of_begun {size : UInt8} {rest : List UInt8} (h : rest.length < size.toNat) :
    Waiting (frameHeader :: size :: rest) := by
  by_cases hshort : (frameHeader :: size :: rest).length < minFrameSize
  · exact waiting_of_short hshort
  · have hpart : (frameHeader :: size :: rest).length <
        claimedSize (frameHeader :: size :: rest) := by
      show rest.length + 2 < size.toNat + 2
      omega
    have hsize : ¬claimedSize (frameHeader :: size :: rest) < minFrameSize := by omega
    rw [Waiting, look, if_neg hshort, if_neg (by simp), if_neg hsize, if_pos hpart]

namespace Receiver

variable {receiver : Receiver}

/-- Bytes that leave the buffer waiting one after the other are all kept. -/
theorem buffer_feed_of_waiting {bytes : List UInt8}
    (h : ∀ part, part <+: bytes → Waiting (receiver.buffer ++ part)) :
    (receiver.feed bytes).buffer = receiver.buffer ++ bytes := by
  induction bytes generalizing receiver with
  | nil => exact (List.append_nil receiver.buffer).symm
  | cons byte bytes ih =>
      have hpush : (receiver.push byte).buffer = receiver.buffer ++ [byte] := by
        have hwaiting : Waiting (receiver.buffer ++ [byte]) := h [byte] ⟨bytes, rfl⟩
        show (findFrame (receiver.buffer ++ [byte])).rest = _
        rw [findFrame_of_waiting hwaiting]
      have hrest : ∀ part, part <+: bytes → Waiting ((receiver.push byte).buffer ++ part) := by
        intro part hpart
        rw [hpush, List.append_assoc]
        exact h (byte :: part) (List.cons_prefix_cons.mpr ⟨rfl, hpart⟩)
      rw [feed_cons, ih hrest, hpush, List.append_assoc, List.singleton_append]

theorem buffer_feed_of_begun {size : UInt8} {rest : List UInt8} (h : rest.length < size.toNat) :
    (initial.feed (frameHeader :: size :: rest)).buffer = frameHeader :: size :: rest := by
  refine buffer_feed_of_waiting ?_
  intro part hpart
  show Waiting part
  match part, hpart with
  | [], _ => exact waiting_of_short (Nat.zero_lt_succ _)
  | [_], _ => exact waiting_of_short (Nat.succ_lt_succ (Nat.zero_lt_succ _))
  | first :: second :: begun, hpart =>
      obtain ⟨hfirst, hpart⟩ := List.cons_prefix_cons.mp hpart
      obtain ⟨hsecond, hpart⟩ := List.cons_prefix_cons.mp hpart
      rw [hfirst, hsecond]
      exact waiting_of_begun (Nat.lt_of_le_of_lt hpart.length_le h)

/-! ## Quiet bytes -/

/-- A header that is in the buffer came before all bytes that are none. -/
theorem length_lt_of_header_mem {quiet : List UInt8} (hquiet : frameHeader ∉ quiet)
    (h : frameHeader ∈ (receiver.feed quiet).buffer) :
    quiet.length < (receiver.feed quiet).buffer.length := by
  by_contra hle
  have hsuffix : (receiver.feed quiet).buffer <:+ quiet :=
    List.suffix_of_suffix_length_le (buffer_feed_suffix receiver quiet)
      (List.suffix_append receiver.buffer quiet) (Nat.le_of_not_lt hle)
  exact hquiet (hsuffix.mem h)

/-- Quiet bytes leave no header behind when there are as many of them as can wait. -/
theorem idle_feed_of_quiet (hwaiting : Waiting receiver.buffer) {quiet : List UInt8}
    (hlong : 256 ≤ quiet.length) (hquiet : frameHeader ∉ quiet) : (receiver.feed quiet).Idle where
  waiting := waiting_feed hwaiting quiet
  noise := by
    intro hmem
    apply Nat.lt_irrefl quiet.length
    calc quiet.length
        < (receiver.feed quiet).buffer.length := length_lt_of_header_mem hquiet hmem
      _ ≤ 256 := (waiting_feed hwaiting quiet).length_le
      _ ≤ quiet.length := hlong

/-- Quiet bytes that announce the longest window when they come behind a header. -/
def quietBytes (count : Nat) : List UInt8 :=
  0xFF :: List.replicate count 0x00

theorem length_quietBytes (count : Nat) : (quietBytes count).length = count + 1 := by
  rw [quietBytes, List.length_cons, List.length_replicate]

theorem header_not_mem_quietBytes (count : Nat) : frameHeader ∉ quietBytes count := by
  intro hmem
  rcases List.mem_cons.mp hmem with hfirst | hrest
  · exact absurd hfirst (by decide)
  · exact absurd (List.eq_of_mem_replicate hrest) (by decide)

/-- The header waits as long as one byte of the window is missing. -/
theorem header_mem_of_longestWindow {count : Nat} (h : count < 255) :
    frameHeader ∈ (initial.feed (frameHeader :: quietBytes count)).buffer := by
  rw [quietBytes, buffer_feed_of_begun (by rw [List.length_replicate]; exact h)]
  exact List.mem_cons_self

/-! ## The next frame -/

/-- A receiver that holds nothing of a frame completes the next one with its last byte. -/
theorem Idle.completedBy_make (hidle : receiver.Idle) (address command : UInt8)
    {payload : List UInt8} (h : payload.length ≤ 252) :
    receiver.completedBy (Frame.make address command payload).bytes =
      List.replicate (payload.length + 4) none ++ [some (Frame.make address command payload)] := by
  have hlength : (Frame.make address command payload).body.length = payload.length + 4 := by
    have hwhole : payload.take maxPayloadSize = payload := List.take_of_length_le h
    show (payload.take maxPayloadSize).length + 4 = payload.length + 4
    rw [hwhole]
  have hall := (aligned_of_noise hidle.noise).completedBy_bytes (.intact address command payload)
  rwa [Piece.completions_intact, hlength] at hall

/-- **A quiet line brings the receiver back into step.**  After any bytes and 256 more of which
none is a header, no header is in the buffer, and at most four bytes are.  Any frame that is
sent next is completed with its own last byte and not before, it is what was sent, its reply is
the only one, and nothing is left of it.

No smaller number of bytes will do: after 255 a header may still be waiting. -/
theorem resynchronized_of_quiet :
    (∀ history quiet, 256 ≤ quiet.length → frameHeader ∉ quiet →
      let receiver := initial.feed (history ++ quiet)
      frameHeader ∉ receiver.buffer ∧ receiver.buffer.length ≤ 4 ∧
      ∀ address command payload, payload.length ≤ 252 →
        let frame := Frame.make address command payload
        (frame.address = address ∧ frame.command = command ∧ frame.payload = payload) ∧
        receiver.completedBy frame.bytes =
          List.replicate (payload.length + 4) none ++ [some frame] ∧
        receiver.repliesTo frame.bytes = (Reply.ofFrame? frame).toList ∧
        (receiver.feed frame.bytes).session = receiver.session.applyFrame frame ∧
        (receiver.feed frame.bytes).buffer = []) ∧
    ∃ history quiet, quiet.length = 255 ∧ frameHeader ∉ quiet ∧
      frameHeader ∈ (initial.feed (history ++ quiet)).buffer := by
  refine ⟨?_, [frameHeader], quietBytes 254, length_quietBytes 254,
    header_not_mem_quietBytes 254, header_mem_of_longestWindow (by decide)⟩
  intro history quiet hlong hquiet receiver
  -- a window that has begun is full by then, and no other one begins in quiet bytes
  have hidle : receiver.Idle := by
    have hwaiting : Waiting (initial.feed history).buffer :=
      waiting_feed (waiting_of_short (by decide)) history
    have hquieted := idle_feed_of_quiet hwaiting hlong hquiet
    rwa [← feed_append] at hquieted
  refine ⟨hidle.noise, hidle.waiting.length_le_of_noise hidle.noise, ?_⟩
  intro address command payload hpayload frame
  have hframes : receiver.framesIn frame.bytes = [frame] := framesIn_bytes hidle rfl
  refine ⟨⟨rfl, rfl, List.take_of_length_le hpayload⟩,
    hidle.completedBy_make address command hpayload, ?_, ?_, ?_⟩
  · rw [repliesTo_eq_filterMap, hframes]
    cases hreply : Reply.ofFrame? frame <;> simp [hreply]
  · rw [session_feed, hframes]
    rfl
  · rw [show frame.bytes = frame.body ++ [frame.check] from rfl, feed_append]
    exact (find_last hidle rfl rfl).2

/-- A line that falls quiet right behind a header, and a byte that announces the longest window:
the last of the quiet bytes completes it. -/
theorem resynchronized_of_longestWindow :
    let receiver := initial.feed ([frameHeader] ++ quietBytes 255)
    let frame := Frame.make broadcastAddress Command.getFirmwareVersion.code [0x01, 0xA0]
    256 ≤ (quietBytes 255).length ∧ frameHeader ∉ quietBytes 255 ∧ frameHeader ∉ receiver.buffer ∧
      receiver.completedBy frame.bytes = List.replicate 6 none ++ [some frame] ∧
      receiver.repliesTo frame.bytes =
        [⟨.getFirmwareVersion, .ok (.firmwareVersion 0x01 0xA0)⟩] := by
  intro receiver frame
  have hlong : 256 ≤ (quietBytes 255).length := Nat.le_of_eq (length_quietBytes 255).symm
  have hquiet : frameHeader ∉ quietBytes 255 := header_not_mem_quietBytes 255
  obtain ⟨hnoise, -, hnext⟩ := resynchronized_of_quiet.1 [frameHeader] _ hlong hquiet
  obtain ⟨-, hcompleted, hreplies, -⟩ :=
    hnext broadcastAddress Command.getFirmwareVersion.code [0x01, 0xA0] (by decide)
  exact ⟨hlong, hquiet, hnoise, hcompleted, hreplies.trans rfl⟩

end Receiver

end TagInventory
