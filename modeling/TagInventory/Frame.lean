import TagInventory.Text.Hex

/-!
# Frames

Every packet, in both directions, is

  `header, size, address, command, payload…, checksum`

where `size` counts the bytes after itself and `checksum` brings the sum of all
bytes to zero modulo 256.  A `Frame` keeps only what can vary; the size and the
checksum are functions of it, so a frame cannot contradict itself.

`Frame.make` builds the frames that this side sends, `Frame.decode?` reads one
window of received bytes.
-/

namespace TagInventory

/-- The byte that opens every frame. -/
def frameHeader : UInt8 := 0xA0

/-- The address that every reader answers to. -/
def broadcastAddress : UInt8 := 0xFF

/-- Header, size, address, command and checksum. -/
def minFrameSize : Nat := 5

/-- The longest payload that the size byte can still count. -/
def maxPayloadSize : Nat := 252

/-- The byte that brings the sum of `bytes` to zero modulo 256. -/
def checksum (bytes : List UInt8) : UInt8 :=
  bytes.foldl (fun rest byte => rest - byte) 0

/-- One packet.  The payload fits the one-byte size field. -/
structure Frame where
  header : UInt8
  address : UInt8
  command : UInt8
  payload : List UInt8
  payload_le : payload.length ≤ maxPayloadSize
  deriving DecidableEq, Repr

namespace Frame

/-- Frame to send.  What does not fit the size field of a long payload is cut off. -/
def make (address command : UInt8) (payload : List UInt8) : Frame where
  header := frameHeader
  address := address
  command := command
  payload := payload.take maxPayloadSize
  payload_le := by rw [List.length_take]; exact Nat.min_le_left ..

/-- The size byte: payload, address, command and checksum. -/
def size (frame : Frame) : UInt8 :=
  UInt8.ofNat (frame.payload.length + 3)

/-- Everything before the checksum. -/
def body (frame : Frame) : List UInt8 :=
  frame.header :: frame.size :: frame.address :: frame.command :: frame.payload

def check (frame : Frame) : UInt8 :=
  checksum frame.body

/-- The frame as it travels on the wire. -/
def bytes (frame : Frame) : List UInt8 :=
  frame.body ++ [frame.check]

/-- The first payload byte, where responses of one status byte carry it. -/
def status? (frame : Frame) : Option UInt8 :=
  frame.payload.head?

def hex (frame : Frame) : String :=
  hexText frame.bytes

/-- Reads one frame that fills `window` exactly.  The window is refused when it is
shorter than the smallest frame, when its size byte disagrees with its length or
when its last byte is not the checksum of the rest.  The header is not looked at:
finding it is the receiver's task. -/
def decode? (window : List UInt8) : Option Frame :=
  match window with
  | header :: size :: address :: command :: tail@(_ :: _) =>
    let payload := tail.dropLast
    let body := header :: size :: address :: command :: payload
    if h : size.toNat = tail.length + 2 then
      if tail.getLast? = some (checksum body) then
        some {
          header, address, command, payload
          payload_le := by
            have hsize := size.toNat_lt
            simp only [payload, List.length_dropLast, maxPayloadSize]
            omega }
      else none
    else none
  | _ => none

@[simp] theorem header_make (address command : UInt8) (payload : List UInt8) :
    (make address command payload).header = frameHeader := rfl

@[simp] theorem address_make (address command : UInt8) (payload : List UInt8) :
    (make address command payload).address = address := rfl

@[simp] theorem command_make (address command : UInt8) (payload : List UInt8) :
    (make address command payload).command = command := rfl

@[simp] theorem payload_make (address command : UInt8) (payload : List UInt8) :
    (make address command payload).payload = payload.take maxPayloadSize := rfl

@[simp] theorem length_bytes (frame : Frame) :
    frame.bytes.length = frame.payload.length + minFrameSize := by
  simp [bytes, body, minFrameSize]

/-- The size byte does not wrap. -/
@[simp] theorem toNat_size (frame : Frame) : frame.size.toNat = frame.payload.length + 3 := by
  have h := frame.payload_le
  simp only [maxPayloadSize] at h
  rw [size, UInt8.toNat_ofNat']
  omega

end Frame

end TagInventory
