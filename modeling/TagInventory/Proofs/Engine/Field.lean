import TagInventory.Proofs.Encoding
import TagInventory.Report

/-!
# Tags in the field of a reader

A `Poll` is what a reader finds in its field during one poll, and what it tells of it: a
summary of the inventory, the number of tags, and one record for each tag, which repeats
that number.  A `PollingReader` goes from one poll to the next with every inventory that it
is asked for, and sends the answers down the line.

The answers are frames whose replies say what was found (`Poll.ofFrame?_countFrame`,
`Poll.ofFrame?_recordFrame`); the keys of the recorded tags are the texts of the EPCs, each
once (`Poll.WellFormed.nodup_texts`).
-/

namespace TagInventory

/-! ## Polls -/

/-- A tag in the field, with what the reader measures. -/
structure Sighting where
  epc : List UInt8
  pc : UInt16
  crc : UInt16
  rssi : UInt8
  radio : UInt8
  inventories : UInt8
  deriving DecidableEq, Repr

/-- What a reader finds during one poll, in the order in which it tells of it. -/
structure Poll where
  address : UInt8
  summary : InventorySummary
  sightings : List Sighting
  deriving DecidableEq, Repr

/-- The tag that is decoded from a record. -/
def Sighting.read (sighting : Sighting) (announced : UInt16) : TagRead where
  announced := announced
  pc := sighting.pc
  epc := sighting.epc
  crc := sighting.crc
  rssi := sighting.rssi
  antenna := radioAntenna sighting.radio
  frequency := radioFrequency sighting.radio
  inventoryCount := sighting.inventories

namespace Poll

/-- No tag is found twice, their number fits a word, and every record fits a frame. -/
structure WellFormed (poll : Poll) : Prop where
  nodup : (poll.sightings.map Sighting.epc).Nodup
  length_le : poll.sightings.length ≤ 65535
  epc_le : ∀ sighting ∈ poll.sightings, sighting.epc.length ≤ 242

instance (poll : Poll) : Decidable poll.WellFormed :=
  decidable_of_iff
    ((poll.sightings.map Sighting.epc).Nodup ∧ poll.sightings.length ≤ 65535 ∧
      ∀ sighting ∈ poll.sightings, sighting.epc.length ≤ 242)
    ⟨fun h => ⟨h.1, h.2.1, h.2.2⟩, fun h => ⟨h.nodup, h.length_le, h.epc_le⟩⟩

/-- The number of tags, as it is announced. -/
def count (poll : Poll) : UInt16 :=
  UInt16.ofNat poll.sightings.length

/-- The EPCs that were found, as texts. -/
def texts (poll : Poll) : List String :=
  poll.sightings.map fun sighting => hexText sighting.epc

/-- The tags that are decoded from the records. -/
def reads (poll : Poll) : List TagRead :=
  poll.sightings.map fun sighting => sighting.read poll.count

/-! ### Answers -/

/-- The answer to an inventory. -/
def inventoryFrame (poll : Poll) : Frame :=
  .make poll.address Command.inventory.code (encodeInventorySummary poll.summary)

/-- The answer to the question for the number of tags. -/
def countFrame (poll : Poll) : Frame :=
  .make poll.address Command.getInventoryBufferTagCount.code (bytes16 poll.count)

/-- The record of one tag. -/
def recordFrame (poll : Poll) (sighting : Sighting) : Frame :=
  .make poll.address Command.getAndResetInventoryBuffer.code
    (encodeBufferRecord poll.count sighting.pc sighting.crc sighting.epc sighting.rssi
      sighting.radio sighting.inventories)

/-- What is sent when a command is received in the course of the poll. -/
def answers (poll : Poll) : Command → List Frame
  | .inventory => [poll.inventoryFrame]
  | .getInventoryBufferTagCount => [poll.countFrame]
  | .getAndResetInventoryBuffer => poll.sightings.map poll.recordFrame
  | _ => []

end Poll

/-! ### The reader -/

/-- A reader that has some polls ahead. -/
structure PollingReader where
  /-- The bytes that were sent and not received yet. -/
  line : List UInt8
  /-- The poll in progress. -/
  current : Option Poll
  upcoming : List Poll
  deriving DecidableEq, Repr

namespace PollingReader

/-- A reader that has received nothing. -/
def ofPolls (polls : List Poll) : PollingReader where
  line := []
  current := none
  upcoming := polls

/-- Puts frames on the line. -/
def send (reader : PollingReader) (frames : List Frame) : PollingReader :=
  { reader with line := reader.line ++ frames.flatMap Frame.bytes }

/-- A command is received: an inventory begins the next poll, and everything else is about
the poll in progress.  There is no answer when there is no such poll. -/
def hear (reader : PollingReader) (command : Command) : PollingReader :=
  let reader : PollingReader :=
    match command, reader.upcoming with
    | .inventory, poll :: upcoming => { reader with current := some poll, upcoming := upcoming }
    | .inventory, [] => { reader with current := none }
    | _, _ => reader
  match reader.current with
  | some poll => reader.send (poll.answers command)
  | none => reader

/-- The reader after a frame was written to it. -/
def receive (reader : PollingReader) (frame : Frame) : PollingReader :=
  match Command.ofCode? frame.command with
  | some command => reader.hear command
  | none => reader

end PollingReader

/-! ## What the answers say -/

namespace Frame

theorem ofFrame?_make (address : UInt8) {command : Command} (hwire : command.onWire = true)
    {payload : List UInt8} (hfits : payload.length ≤ maxPayloadSize) :
    Reply.ofFrame? (make address command.code payload) =
      some ⟨command, Response.decode command payload⟩ := by
  simp only [Reply.ofFrame?, command_make, Command.ofCode?_code, payload_make,
    List.take_of_length_le hfits]
  rw [if_pos hwire]

end Frame

namespace Poll

variable {poll : Poll}

theorem ofFrame?_inventoryFrame (poll : Poll) :
    Reply.ofFrame? poll.inventoryFrame =
      some ⟨.inventory, .ok (.inventoryDone poll.summary)⟩ := by
  rw [inventoryFrame, Frame.ofFrame?_make poll.address rfl (Nat.le_of_ble_eq_true rfl),
    decode_inventory]

theorem ofFrame?_countFrame (poll : Poll) :
    Reply.ofFrame? poll.countFrame =
      some ⟨.getInventoryBufferTagCount, .ok (.bufferTagCount poll.count)⟩ := by
  rw [countFrame, Frame.ofFrame?_make poll.address rfl (Nat.le_of_ble_eq_true rfl),
    decode_bufferTagCount]

theorem ofFrame?_recordFrame (poll : Poll) {sighting : Sighting}
    (h : sighting.epc.length ≤ 242) :
    Reply.ofFrame? (poll.recordFrame sighting) =
      some ⟨.getAndResetInventoryBuffer, .ok (.bufferedTag (sighting.read poll.count))⟩ := by
  have hfits : (encodeBufferRecord poll.count sighting.pc sighting.crc sighting.epc sighting.rssi
      sighting.radio sighting.inventories).length ≤ maxPayloadSize := by
    simp only [encodeBufferRecord, bytes16, List.length_append, List.length_cons,
      List.length_nil, maxPayloadSize]
    omega
  rw [recordFrame, Frame.ofFrame?_make poll.address rfl hfits,
    decode_bufferRecord _ _ _ _ _ _ _ (by omega)]
  rfl

theorem WellFormed.toNat_count (h : poll.WellFormed) :
    poll.count.toNat = poll.sightings.length := by
  have hle := h.length_le
  rw [count, UInt16.toNat_ofNat']
  omega

theorem WellFormed.count_eq_zero_iff (h : poll.WellFormed) :
    poll.count = 0 ↔ poll.sightings = [] := by
  rw [← List.length_eq_zero_iff, ← h.toNat_count, ← UInt16.toNat_inj]
  rfl

/-- The keys of the recorded tags are the texts of the EPCs. -/
theorem map_key_reads (poll : Poll) : poll.reads.map TagRead.key = poll.texts := by
  simp [reads, texts, TagRead.key, Sighting.read]

/-- Tags with one key have one EPC. -/
theorem WellFormed.nodup_texts (h : poll.WellFormed) : poll.texts.Nodup := by
  have hmap : poll.texts = (poll.sightings.map Sighting.epc).map hexText := by
    simp [texts, Function.comp_def]
  rw [hmap]
  refine List.pairwise_map.mpr (h.nodup.imp ?_)
  intro first second hne heq
  exact hne (hexText_inj heq)

end Poll

end TagInventory
