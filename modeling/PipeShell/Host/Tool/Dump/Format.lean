import PipeShell.Host.Number.Conversion
import PipeShell.Host.Number.Stored
import PipeShell.Host.Tool.Basic

/-! # How bytes are shown

Bytes stand for characters or numbers. All that a format shows has one width. -/

namespace PipeShell.Host.Tool.Dump

open PipeShell.Host.Number

inductive Form where
  | named | char | signed | unsigned | octal | hexadecimal | floating
  deriving DecidableEq, Repr

/-- How the bytes of a row are shown. -/
structure Format where
  form : Form
  /-- How many bytes make one number. -/
  size : Nat
  /-- Whether the characters follow in the end. -/
  trailer : Bool := false
  deriving Repr

/-- The floating numbers of a size. -/
def storageOf (size : Nat) : Storage :=
  if size == 4 then .single else if size == 8 then .double else .extended

namespace Format

/-- The most characters that a number takes. -/
def width (f : Format) : Nat :=
  let power := 256 ^ f.size
  match f.form with
  | .named | .char => 3
  | .signed => (toString (power / 2)).length + 1
  | .unsigned => (toString (power - 1)).length
  | .octal => (Nat.toDigits 8 (power - 1)).length
  | .hexadecimal => 2 * f.size
  | .floating => if f.size == 4 then 15 else if f.size == 8 then 24 else 29

end Format

def names : List String := [
  "nul", "soh", "stx", "etx", "eot", "enq", "ack", "bel", "bs", "ht", "nl", "vt", "ff", "cr", "so",
  "si", "dle", "dc1", "dc2", "dc3", "dc4", "nak", "syn", "etb", "can", "em", "sub", "esc", "fs", "gs",
  "rs", "us", "sp"]

def nameOf (b : UInt8) : String :=
  let n := b.toNat % 128
  if n == 127 then "del" else (names[n]?).getD (String.ofList [Char.ofNat n])

def isVisible (b : UInt8) : Bool := 32 ≤ b && b < 127

def charOf (b : UInt8) : String :=
  match b.toNat with
  | 0 => "\\0"
  | 7 => "\\a"
  | 8 => "\\b"
  | 9 => "\\t"
  | 10 => "\\n"
  | 11 => "\\v"
  | 12 => "\\f"
  | 13 => "\\r"
  | n =>
    if isVisible b then String.ofList [Char.ofNat n]
    else Conversion.unsigned { precision := some 3 } 'o' n

/-- The number that bytes make, the least one first. -/
def numberOf (bytes : List UInt8) : Nat := bytes.foldr (fun b n => b.toNat + 256 * n) 0

/-- A number, or a character, without what fills it up. -/
def shown (f : Format) (bytes : List UInt8) : String :=
  let n := numberOf bytes
  let power := 256 ^ f.size
  match f.form with
  | .named => nameOf (bytes.headD 0)
  | .char => charOf (bytes.headD 0)
  | .signed => toString (if power / 2 ≤ n then (n : Int) - power else n)
  | .unsigned => toString n
  | .octal => Conversion.unsigned { precision := some f.width } 'o' n
  | .hexadecimal => Conversion.unsigned { precision := some f.width } 'x' n
  | .floating => (storageOf f.size).shortest ((storageOf f.size).decode n)

/-! ## Types -/

/-- The sizes that letters stand for. -/
def sizeLetters : Form → List (Char × Nat)
  | .floating => [('F', 4), ('D', 8), ('L', 16)]
  | _ => [('C', 1), ('S', 2), ('I', 4), ('L', 8)]

/-- The sizes that there are, the usual one, and what has them. -/
def sizesOf : Form → List Nat × Nat × String
  | .floating => ([4, 8, 16], 8, "floating point")
  | _ => ([1, 2, 4, 8], 4, "integral")

/-- The size at the start of a text, and the rest. -/
def sizeAt (form : Form) (whole : String) (cs : List Char) : Except Message (Nat × List Char) :=
  match cs.head?.bind fun c => (sizeLetters form).lookup c with
  | some size => .ok (size, cs.drop 1)
  | none =>
    let digits := cs.takeWhile Char.isDigit
    let rest := cs.drop digits.length
    let (sizes, usual, what) := sizesOf form
    if digits.isEmpty then .ok (usual, cs)
    else
      let n := digits.foldl (fun n c => 10 * n + (c.toNat - '0'.toNat)) 0
      if sizes.contains n then .ok (n, rest)
      else
        let mistake := "invalid type string " ++ quote whole
        .error (if 2 ^ 64 ≤ n then mistake
          else mistake ++ ";\nthis system doesn't provide a " ++ toString n ++ "-byte " ++ what ++ " type")

def formOf? (c : Char) : Option Form :=
  [('a', Form.named), ('c', .char), ('d', .signed), ('u', .unsigned), ('o', .octal), ('x', .hexadecimal),
    ('f', .floating)].lookup c

/-- Reads a string of types, each of them a letter and perhaps a size. -/
def formatsOf (whole : String) (cs : List Char) (done : List Format) : Nat → Except Message (List Format)
  | 0 => .ok done
  | fuel + 1 => match cs with
    | [] => .ok done
    | c :: rest => match formOf? c with
      | none =>
        .error ("invalid character '" ++ String.ofList [c] ++ "' in type string " ++ quote whole)
      | some form => do
        let (size, rest) ←
          if form == .named || form == .char then .ok (1, rest) else sizeAt form whole rest
        let trailer := rest.head? == some 'z'
        formatsOf whole (if trailer then rest.drop 1 else rest) (done ++ [{ form, size, trailer }]) fuel

/-- The types that options without an argument stand for. -/
def shorthands : List (String × Form × Nat) := [
  ("a", .named, 1), ("b", .octal, 1), ("c", .char, 1), ("d", .unsigned, 2), ("i", .signed, 4),
  ("l", .signed, 8), ("o", .octal, 2), ("s", .signed, 2), ("x", .hexadecimal, 2), ("h", .hexadecimal, 2),
  ("B", .octal, 2), ("D", .unsigned, 4), ("H", .hexadecimal, 4), ("I", .signed, 8), ("L", .signed, 8),
  ("O", .octal, 4), ("X", .hexadecimal, 4), ("e", .floating, 8), ("f", .floating, 4), ("F", .floating, 8)]

end PipeShell.Host.Tool.Dump
