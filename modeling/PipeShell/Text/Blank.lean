/-! # Blank characters

The Unicode property White_Space decides which lines count as blank. It is wider than
`Char.isWhitespace`, which knows ASCII only. -/

namespace PipeShell.Text

/-- The characters with the Unicode property White_Space. -/
def isBlank (c : Char) : Bool :=
  let n := c.toNat
  (0x9 ≤ n && n ≤ 0xD) || n == 0x20 || n == 0x85 || n == 0xA0 || n == 0x1680 ||
    (0x2000 ≤ n && n ≤ 0x200A) || n == 0x2028 || n == 0x2029 || n == 0x202F || n == 0x205F ||
    n == 0x3000

/-- A text of blanks only, the empty text included. -/
def allBlank (text : String) : Bool := text.toList.all isBlank

theorem allBlank_iff {text : String} : allBlank text ↔ ∀ c ∈ text.toList, isBlank c := by
  simp [allBlank]

end PipeShell.Text
