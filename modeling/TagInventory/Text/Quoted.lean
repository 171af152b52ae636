import TagInventory.Text.Glyph

/-!
# Quoted text

Messages show lists of keys between brackets, each key in double quotes.  Inside the
quotes a quote, a backslash, the common controls and every character without a glyph
are escaped, so that a message is one line and no key can imitate the end of another.
-/

namespace TagInventory

/-- The digits of a code point, lower case and without padding. -/
def codePointDigits (value : Nat) : List Char :=
  Nat.toDigits 16 value

/-- A character as it stands inside quotes. -/
def quotedChar (c : Char) : List Char :=
  match c with
  | '\x00' => ['\\', '0']
  | '\t' => ['\\', 't']
  | '\n' => ['\\', 'n']
  | '\r' => ['\\', 'r']
  | '"' => ['\\', '"']
  | '\\' => ['\\', '\\']
  | c =>
    if hasGlyph c then [c]
    else ['\\', 'u', '\x7b'] ++ codePointDigits c.toNat ++ ['\x7d']

/-- Text between double quotes. -/
def quoted (text : String) : String :=
  String.ofList ('"' :: (text.toList.flatMap quotedChar ++ ['"']))

/-- A list of texts, each quoted, between brackets. -/
def quotedList (texts : List String) : String :=
  "[" ++ ", ".intercalate (texts.map quoted) ++ "]"

end TagInventory
