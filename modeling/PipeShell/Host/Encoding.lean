import PipeShell.Host.ByteText
import PipeShell.Text.Property

/-! # Encodings

What the bytes of a text mean is a matter of the environment: either each byte is a character and
only those of ASCII can be shown, or characters are encoded in UTF-8. -/

namespace PipeShell.Host

inductive Encoding where
  | bytes | utf8
  deriving DecidableEq, Repr

/-- A character of a text: its bytes, and which one it is if they encode one. -/
structure Glyph where
  bytes : List Char
  char : Option Char

namespace Encoding

/-! ## The environment -/

/-- The parts of a locale. -/
def categories : List String := ["LC_CTYPE", "LC_NUMERIC", "LC_TIME", "LC_COLLATE", "LC_MONETARY",
  "LC_MESSAGES", "LC_PAPER", "LC_NAME", "LC_ADDRESS", "LC_TELEPHONE", "LC_MEASUREMENT",
  "LC_IDENTIFICATION"]

/-- The encoding of a locale, if the host has that locale. -/
def ofLocale? (name : String) : Option Encoding :=
  if name == "C" || name == "POSIX" then some .bytes
  else match name.splitOn "." with
    | ["C", code] =>
      let plain := (code.toList.filter Char.isAlphanum).map Char.toLower
      if plain == "utf8".toList then some .utf8 else none
    | _ => none

/-- The encoding that the entries of an environment ask for. Where one part of the locale is not to
be had, none is. -/
def ofEnvironment (entries : List String) : Encoding :=
  let value? (name : String) : Option String :=
    (entries.find? (·.startsWith (name ++ "="))).bind fun entry =>
      let text := String.ofList (entry.toList.drop (name.length + 1))
      if text.isEmpty then none else some text
  let locale (category : String) : String :=
    ((value? "LC_ALL").or ((value? category).or (value? "LANG"))).getD "C"
  match categories.mapM fun category => ofLocale? (locale category) with
  | some (encoding :: _) => encoding
  | _ => .bytes

/-! ## Characters -/

def ofByte (b : UInt8) : Char := Char.ofNat b.toNat

def toByte (c : Char) : UInt8 := UInt8.ofNat c.toNat

/-- The character at the beginning of bytes in UTF-8, and how many of them it takes. -/
def first? : List Char → Option (Char × Nat)
  | [] => none
  | c :: cs => match Text.lead? (toByte c) with
    | none => none
    | some (left, value, low, high) =>
      match Text.continued low high value left ((cs.take left).map toByte) with
      | (some n, _) => some (Char.ofNat n, left + 1)
      | (none, _) => none

/-- Whether bytes in UTF-8 begin a character and end within it. -/
def isOpen : List Char → Bool
  | [] => false
  | c :: cs => match Text.lead? (toByte c) with
    | none => false
    | some (left, value, low, high) =>
      match Text.continued low high value left (cs.map toByte) with
      | (none, []) => true
      | _ => false

/-- Cuts bytes in UTF-8 into characters. A byte that is part of none stands for itself. The number
bounds how many there are. -/
def cut (cs : List Char) : Nat → List Glyph
  | 0 => []
  | fuel + 1 => match cs with
    | [] => []
    | c :: rest => match first? cs with
      | some (char, size) => ⟨cs.take size, some char⟩ :: cut (cs.drop size) fuel
      | none => ⟨[c], none⟩ :: cut rest fuel

/-- The characters of a text. -/
def glyphs (e : Encoding) (text : ByteText) : List Glyph :=
  let cs := text.toList
  match e with
  | .bytes => cs.map fun c => ⟨[c], if c.toNat < 128 then some c else none⟩
  | .utf8 => cut cs cs.length

/-- Format characters and blanks that do not count as hidden. -/
def shownRanges : Text.Ranges := #[(0xA0, 0xA0), (0xAD, 0xAD), (0x600, 0x605), (0x61C, 0x61C),
  (0x6DD, 0x6DD), (0x70F, 0x70F), (0x890, 0x891), (0x8E2, 0x8E2), (0x1680, 0x1680),
  (0x180E, 0x180E), (0x2000, 0x200F), (0x202A, 0x202F), (0x205F, 0x2064), (0x2066, 0x206F),
  (0x3000, 0x3000), (0xE000, 0xF8FF), (0xFEFF, 0xFEFF), (0xFFF9, 0xFFFB), (0xE0001, 0xE0001),
  (0xE0020, 0xE007F), (0xF0000, 0xFFFFD), (0x100000, 0x10FFFD)]

/-- Whether a character can be shown. -/
def shows (c : Char) : Bool :=
  if c.toNat < 128 then 32 ≤ c.toNat && c.toNat < 127
  else shownRanges.has c || !Text.unprintableRanges.has c

end Encoding

namespace Glyph

/-- Whether the character can be shown. -/
def isShown (g : Glyph) : Bool := g.char.any Encoding.shows

def text (g : Glyph) : ByteText := String.ofList g.bytes

end Glyph
end PipeShell.Host
