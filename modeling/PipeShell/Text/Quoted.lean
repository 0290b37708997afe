import PipeShell.Text.Property

/-! # Quoted texts

Log records show texts between double quotes, with an escape for every character that a reader
could not see or could take for the end of the quotation. -/

namespace PipeShell.Text

/-- The code point in lower-case hexadecimal, between braces. -/
def escapeCodePoint (c : Char) : String :=
  "\\u\x7b" ++ String.ofList (Nat.toDigits 16 c.toNat) ++ "\x7d"

def escapeChar (c : Char) : String :=
  if c == '\x00' then "\\0"
  else if c == '\t' then "\\t"
  else if c == '\n' then "\\n"
  else if c == '\r' then "\\r"
  else if c == '"' then "\\\""
  else if c == '\\' then "\\\\"
  else if 0x20 ≤ c.toNat && c.toNat < 0x7F then c.toString
  else if (isGraphemeExtend c && !isVisibleExtend c) || !isPrintable c then escapeCodePoint c
  else c.toString

/-- The text between double quotes, escaped. -/
def quoted (text : String) : String :=
  "\"" ++ String.join (text.toList.map escapeChar) ++ "\""

end PipeShell.Text
