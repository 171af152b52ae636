import TagInventory.Proofs.BufferRecord
import TagInventory.Proofs.Disturbance
import TagInventory.Proofs.ReadRecord

/-!
# A read record arrives as the tag that was read

Two fields of a read record have any length, and neither has a size byte of its own: the byte in
front of them counts both, and the one behind them counts the data.  The record is read back
whatever the two lengths are, as long as the byte in front can count them.

A record that fits into one frame arrives at the session as one tag.  How the bytes of the frame
are cut into chunks makes no difference, and neither does noise that came before it.
-/

namespace TagInventory

/-! ## Frames that arrive -/

namespace Receiver

variable {receiver : Receiver} {frame : Frame}

/-- A frame that arrives behind noise is told to the session, and nothing else is. -/
theorem reply_of_frame (hnoise : frameHeader ∉ receiver.buffer)
    (hheader : frame.header = frameHeader)
    {reply : Reply} (hreply : Reply.ofFrame? frame = some reply)
    {chunks : List (List UInt8)} (hchunks : chunks.flatten = frame.bytes) :
    (receiver.repliesToChunks chunks).flatten = [reply] ∧
      (receiver.feedChunks chunks).session = receiver.session.apply reply := by
  have hframes : receiver.framesIn frame.bytes = [frame] := by
    rw [(aligned_of_noise hnoise).framesIn_eq, Frame.validWindows_bytes hheader]
  constructor
  · rw [flatten_repliesToChunks, hchunks, repliesTo_eq_filterMap, hframes,
      List.filterMap_cons_some hreply, List.filterMap_nil]
  · rw [feedChunks_eq_feed, hchunks, session_feed, hframes, List.foldl_cons, List.foldl_nil,
      Session.applyFrame, hreply]

end Receiver

/-! ## Records that arrive -/

/-- The tag that the fields of a read record say was read. -/
def TagRead.ofReadFields (count pc crc : UInt16) (epc data : List UInt8)
    (radio reads : UInt8) : TagRead where
  announced := count
  pc := pc
  epc := epc
  crc := crc
  data := data
  antenna := radioAntenna radio
  frequency := radioFrequency radio
  readCount := reads

theorem readRecord?_encode (count pc crc : UInt16) (epc data : List UInt8) (radio reads : UInt8)
    (hsize : epc.length + data.length + 4 ≤ 255) :
    readRecord? (encodeReadRecord count pc crc epc data radio reads) =
      some (.ofReadFields count pc crc epc data radio reads) := by
  have hread : (TagRead.ofReadFields count pc crc epc data radio reads).OfRead radio := by
    refine ⟨?_, rfl, rfl, rfl, rfl, rfl⟩
    show epc.length + data.length + 4 < 256
    omega
  have hback := readRecord?_encodeReadRecord hread
  exact hback

theorem length_encodeReadRecord (count pc crc : UInt16) (epc data : List UInt8)
    (radio reads : UInt8) :
    (encodeReadRecord count pc crc epc data radio reads).length =
      epc.length + data.length + 10 := by
  simp only [encodeReadRecord, bytes16, List.length_append, List.length_cons, List.length_nil]
  omega

/-- A payload that is a read record makes the frame an answer to a read. -/
theorem Reply.ofFrame?_of_readRecord {payload : List UInt8} {tag : TagRead}
    (hread : readRecord? payload = some tag) (hfits : payload.length ≤ maxPayloadSize)
    (address : UInt8) :
    ofFrame? (Frame.make address Command.read.code payload) = some ⟨.read, .ok (.readTag tag)⟩ := by
  have hpayload : (Frame.make address Command.read.code payload).payload = payload :=
    List.take_of_length_le hfits
  rw [ofFrame?_of_code rfl (Frame.command_make ..), hpayload,
    Response.decode_of_layout (.readTag hread)]

/-- **A read record arrives as the tag that was read.**  When EPC and data can be counted by one
byte, the fields of a record are read back from its bytes.  Antenna and frequency are the two low
and the six high bits of one byte, and give this byte together; what a read record does not carry
is zero.

When the record fits into a frame, the bytes of this frame make a receiver without a header in
its buffer hand on this tag once, and nothing else, however they are cut into chunks. -/
theorem Receiver.readTag_of_record (count pc crc : UInt16) (epc data : List UInt8)
    (radio reads : UInt8) (hsize : epc.length + data.length + 4 ≤ 255) :
    let payload := encodeReadRecord count pc crc epc data radio reads
    ∃ tag, readRecord? payload = some tag ∧
      (tag.announced = count ∧ tag.pc = pc ∧ tag.epc = epc ∧ tag.crc = crc ∧ tag.data = data ∧
        tag.readCount = reads) ∧
      (tag.antenna.toNat = radio.toNat % 4 ∧ tag.frequency.toNat = radio.toNat / 4 * 4 ∧
        tag.antenna ||| tag.frequency = radio) ∧
      (tag.rssi = 0 ∧ tag.inventoryCount = 0 ∧ tag.seen = 0) ∧
      (epc.length + data.length + 10 ≤ 252 →
        ∀ (address : UInt8) (receiver : Receiver) (chunks : List (List UInt8)),
          frameHeader ∉ receiver.buffer →
          chunks.flatten = (Frame.make address Command.read.code payload).bytes →
          (receiver.repliesToChunks chunks).flatten = [⟨.read, .ok (.readTag tag)⟩] ∧
            (receiver.feedChunks chunks).session =
              { receiver.session with
                failed := false
                tagReads := receiver.session.tagReads ++ [(.read, tag)] }) := by
  intro payload
  have hread := readRecord?_encode count pc crc epc data radio reads hsize
  refine ⟨_, hread, ⟨rfl, rfl, rfl, rfl, rfl, rfl⟩,
    ⟨toNat_radioAntenna radio, toNat_radioFrequency radio, radioAntenna_or_radioFrequency radio⟩,
    ⟨rfl, rfl, rfl⟩, ?_⟩
  intro hfits address receiver chunks hnoise hchunks
  -- a payload that fits is not cut when it is framed
  have hlength : payload.length ≤ maxPayloadSize := by
    rw [length_encodeReadRecord]
    exact hfits
  exact reply_of_frame hnoise rfl (Reply.ofFrame?_of_readRecord hread hlength address) hchunks

/-- A tag without an EPC, and as much data as a frame can carry, all of it header bytes.  Two
bytes of noise are in the buffer, and the frame comes in two chunks. -/
theorem Receiver.readTag_of_longestData :
    let data := List.replicate 242 frameHeader
    let payload := encodeReadRecord 1 0x3000 0x1122 [] data 0x06 2
    let receiver : Receiver := ⟨[0x01, 0x02], .initial⟩
    let bytes := (Frame.make broadcastAddress Command.read.code payload).bytes
    ([] : List UInt8).length + data.length + 4 ≤ 255 ∧
      ([] : List UInt8).length + data.length + 10 ≤ 252 ∧ frameHeader ∉ receiver.buffer ∧
      ∃ tag, readRecord? payload = some tag ∧ tag.epc = [] ∧ tag.data = data ∧ tag.crc = 0x1122 ∧
        tag.antenna ||| tag.frequency = 0x06 ∧
        (receiver.feedChunks [bytes.take 200, bytes.drop 200]).session.tagReads =
          [(.read, tag)] := by
  intro data payload receiver bytes
  have hlength : data.length = 242 := List.length_replicate
  have hsize : ([] : List UInt8).length + data.length + 4 ≤ 255 := by
    rw [hlength]
    decide
  have hfits : ([] : List UInt8).length + data.length + 10 ≤ 252 := by
    rw [hlength]
    decide
  have hnoise : frameHeader ∉ receiver.buffer := by decide
  obtain ⟨tag, hread, ⟨-, -, hepc, hcrc, hdata, -⟩, ⟨-, -, hradio⟩, -, harrives⟩ :=
    readTag_of_record 1 0x3000 0x1122 [] data 0x06 2 hsize
  obtain ⟨-, hsession⟩ := harrives hfits broadcastAddress receiver
    [bytes.take 200, bytes.drop 200] hnoise (by simp [bytes, payload])
  refine ⟨hsize, hfits, hnoise, tag, hread, hepc, hdata, hcrc, hradio, ?_⟩
  rw [hsession]
  rfl

end TagInventory
