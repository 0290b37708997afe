import PipeShell.Host.ByteText

/-! # The order of names and lines

Two orders of byte strings: byte by byte, and as versions, in which numbers within names count as
numbers. -/

namespace PipeShell.Host.Tool.Collation

/-- Compares from position `i` on. -/
def bytesFrom (a b : ByteArray) (i : Nat) : Nat → Ordering
  | 0 => .eq
  | fuel + 1 =>
    if h : i < a.size ∧ i < b.size then
      let x := a[i]
      let y := b[i]
      if x < y then .lt else if y < x then .gt else bytesFrom a b (i + 1) fuel
    else compare a.size b.size

def bytes (a b : ByteArray) : Ordering := bytesFrom a b 0 (a.size + 1)

/-! ## Versions -/

def isLetter (c : Char) : Bool := c.isAlpha

/-- Takes endings such as `.tar` off the front: a dot, a letter or a tilde, and more of them or
digits. -/
def dropEnding : List Char → Option (List Char)
  | '.' :: c :: rest =>
    if isLetter c || c == '~' then some (rest.dropWhile fun c => c.isAlphanum || c == '~') else none
  | _ => none

/-- Whether a text consists of endings. -/
def isEndings (cs : List Char) : Nat → Bool
  | 0 => cs.isEmpty
  | fuel + 1 => cs.isEmpty || match dropEnding cs with
    | some rest => isEndings rest fuel
    | none => false

/-- A name without the endings behind its first character. -/
def stem : List Char → List Char
  | [] => []
  | c :: rest => if isEndings rest rest.length then [c] else c :: stem rest

/-- How early a character comes among those that are no digits; the end of a name comes between a
tilde and a digit. -/
def rank : Option Char → Int
  | none => -1
  | some c =>
    if c.isDigit then 0 else if isLetter c then c.toNat else if c == '~' then -2 else c.toNat + 256

/-- Compares what stands in front of numbers, and gives what is left. -/
def compareText (a b : List Char) : Nat → Ordering × List Char × List Char
  | 0 => (.eq, a, b)
  | fuel + 1 =>
    let ends (cs : List Char) : Bool := (cs.head?.map Char.isDigit).getD true
    if ends a && ends b then (.eq, a, b)
    else
      let order := compare (rank a.head?) (rank b.head?)
      if order != .eq then (order, a, b) else compareText (a.drop 1) (b.drop 1) fuel

/-- Compares texts and numbers in turn. -/
def compareParts (a b : List Char) : Nat → Ordering
  | 0 => .eq
  | fuel + 1 =>
    if a.isEmpty && b.isEmpty then .eq
    else match compareText a b (a.length + b.length) with
      | (.eq, a, b) =>
        let a := a.dropWhile (· == '0')
        let b := b.dropWhile (· == '0')
        let m := a.takeWhile Char.isDigit
        let n := b.takeWhile Char.isDigit
        let order := (compare m.length n.length).then (compare (String.ofList m) (String.ofList n))
        order.then (compareParts (a.drop m.length) (b.drop n.length) fuel)
      | (order, _, _) => order

/-- Names with a dot in front come first, and among them the two that every directory has. -/
def dotRank (cs : List Char) : Nat :=
  match cs with
  | [] => 0
  | ['.'] => 1
  | ['.', '.'] => 2
  | '.' :: _ => 3
  | _ => 4

/-- The order of names as versions. Endings count only for names that are alike otherwise. -/
def versions (a b : String) : Ordering :=
  let a := a.toList
  let b := b.toList
  let fuel := a.length + b.length + 1
  (compare (dotRank a) (dotRank b)).then
    ((compareParts (stem a) (stem b) fuel).then (compareParts a b fuel))

end PipeShell.Host.Tool.Collation
