/-! # Text as bytes

Output and arguments leave the shell as bytes. `utf8` is the encoding as a list, which is what
statements about bytes speak of; `ofUtf8?` reads bytes back and refuses what is not UTF-8, and
`lossy` reads as much as there is to be read. -/

namespace PipeShell.Text

/-- The UTF-8 bytes of a text. -/
def utf8 (text : String) : List UInt8 := text.toList.flatMap String.utf8EncodeChar

/-- The text that these bytes encode, if they are valid UTF-8. -/
def ofUtf8? (bytes : ByteArray) : Option String := String.fromUTF8? bytes

@[simp] theorem utf8_empty : utf8 "" = [] := rfl

theorem utf8_append (a b : String) : utf8 (a ++ b) = utf8 a ++ utf8 b := by
  simp [utf8, String.toList_append]

/-! ## Bytes that are not all text -/

/-- What a byte can begin: how many bytes follow it, the bits it brings, and between which bounds
the byte after it must lie. -/
def lead? (b : UInt8) : Option (Nat × Nat × UInt8 × UInt8) :=
  if b < 0x80 then some (0, b.toNat, 0x80, 0xBF)
  else if b < 0xC2 then none
  else if b < 0xE0 then some (1, b.toNat - 0xC0, 0x80, 0xBF)
  else if b == 0xE0 then some (2, 0, 0xA0, 0xBF)
  else if b == 0xED then some (2, 0xD, 0x80, 0x9F)
  else if b < 0xF0 then some (2, b.toNat - 0xE0, 0x80, 0xBF)
  else if b == 0xF0 then some (3, 0, 0x90, 0xBF)
  else if b < 0xF4 then some (3, b.toNat - 0xF0, 0x80, 0xBF)
  else if b == 0xF4 then some (3, 4, 0x80, 0x8F)
  else none

/-- Takes the bytes that follow a lead, as far as they fit. Nothing is read if one is missing. -/
def continued (low high : UInt8) (value : Nat) : Nat → List UInt8 → Option Nat × List UInt8
  | 0, bytes => (some value, bytes)
  | _ + 1, [] => (none, [])
  | left + 1, b :: bytes =>
    if low ≤ b && b ≤ high then
      continued 0x80 0xBF (value * 64 + (b.toNat - 0x80)) left bytes
    else (none, b :: bytes)

/-- The characters of bytes, in which each of the longest beginnings of a character that do not go
on stands as one U+FFFD. -/
def lossyChars : Nat → List UInt8 → List Char
  | 0, _ | _, [] => []
  | fuel + 1, b :: bytes => match lead? b with
    | none => '\ufffd' :: lossyChars fuel bytes
    | some (left, value, low, high) => match continued low high value left bytes with
      | (some n, rest) => Char.ofNat n :: lossyChars fuel rest
      | (none, rest) => '\ufffd' :: lossyChars fuel rest

/-- The text of bytes, whatever they are. -/
def lossy (bytes : ByteArray) : String :=
  match ofUtf8? bytes with
  | some text => text
  | none => String.ofList (lossyChars bytes.size bytes.toList)

end PipeShell.Text
