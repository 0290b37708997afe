import PipeShell.Text.Utf8

/-! # Byte texts

The names, arguments and scripts of a host are bytes, whatever they mean. A byte text holds them as
a string in which each character stands for one byte. -/

namespace PipeShell.Host

/-- A string of characters below 256. -/
abbrev ByteText := String

namespace ByteText

def ofBytes (bytes : ByteArray) : ByteText :=
  bytes.foldl (fun text b => text.push (Char.ofNat b.toNat)) ""

def toBytes (text : ByteText) : ByteArray :=
  text.foldl (fun bytes c => bytes.push (UInt8.ofNat c.toNat)) .empty

/-- The bytes of a text in UTF-8. -/
def ofText (text : String) : ByteText := ofBytes text.toUTF8

/-- The text that the bytes encode, as far as they encode one. -/
def toText (text : ByteText) : String := Text.lossy (toBytes text)

end ByteText
end PipeShell.Host
