/-!
# Hexadecimal text

Bytes are written as two digits each, the high half first.  Tag keys and dumps of
frames use upper-case digits (`hexText`); single codes inside messages use
lower-case ones (`lowerHex`).
-/

namespace TagInventory

/-- The upper-case digit of a value below sixteen. -/
def upperDigit (value : Nat) : Char :=
  if value < 10 then Char.ofNat (48 + value) else Char.ofNat (55 + value)

/-- The lower-case digit of a value below sixteen. -/
def lowerDigit (value : Nat) : Char :=
  if value < 10 then Char.ofNat (48 + value) else Char.ofNat (87 + value)

/-- The two upper-case digits of a byte, high half first. -/
def upperPair (byte : UInt8) : List Char :=
  [upperDigit (byte.toNat / 16), upperDigit (byte.toNat % 16)]

/-- The upper-case digits of a list of bytes. -/
def hexDigits (bytes : List UInt8) : List Char :=
  bytes.flatMap upperPair

/-- Two upper-case digits per byte, in order. -/
def hexText (bytes : List UInt8) : String :=
  String.ofList (hexDigits bytes)

/-- The two lower-case digits of a byte. -/
def lowerHex (byte : UInt8) : String :=
  String.ofList [lowerDigit (byte.toNat / 16), lowerDigit (byte.toNat % 16)]

@[simp] theorem hexDigits_nil : hexDigits [] = [] := rfl

@[simp] theorem hexDigits_cons (byte : UInt8) (bytes : List UInt8) :
    hexDigits (byte :: bytes) = upperPair byte ++ hexDigits bytes := rfl

@[simp] theorem length_hexDigits (bytes : List UInt8) :
    (hexDigits bytes).length = 2 * bytes.length := by
  induction bytes with
  | nil => rfl
  | cons byte rest ih => simp [upperPair, ih]; omega

end TagInventory
