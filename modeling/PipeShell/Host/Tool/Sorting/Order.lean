import PipeShell.Host.Number.Floating
import PipeShell.Host.Tool.Collation

/-! # The order of lines

Lines are ordered by keys, each a part of the line with a way to compare it; lines whose keys are
all alike are compared as a whole. -/

namespace PipeShell.Host.Tool

open PipeShell.Host.Number

namespace Sorting

/-- A part of a line and how it is compared. Words and characters are counted from zero. -/
structure Key where
  /-- Where the part begins; nothing for the beginning of the line. -/
  firstWord : Option Nat := none
  firstChar : Nat := 0
  /-- The word in which the part ends; nothing for the end of the line. -/
  lastWord : Option Nat := none
  /-- How many characters of the last word belong to the part; zero for all. -/
  lastChar : Nat := 0
  /-- Whether blanks are passed over where the part begins, and where its last word does. -/
  skipsFirst : Bool := false
  skipsLast : Bool := false
  /-- How the part is compared, in letters. -/
  ways : List Char := []
  /-- Whether the key was given the old way. -/
  isOld : Bool := false
  deriving Repr

namespace Key

def has (k : Key) (way : Char) : Bool := k.ways.contains way

/-- Whether the key says nothing about how its part is compared, but for the direction. -/
def isPlain (k : Key) : Bool :=
  !k.skipsFirst && !k.skipsLast && k.ways.all (· == 'r')

end Key

/-! ## Parts of lines -/

/-- What separates words: a byte, or the change from blanks to others. -/
abbrev Separator := Option UInt8

def isBlank (b : UInt8) : Bool := b == 32 || b == 9 || b == 10

/-- The first position from `i` on where `p` does not hold. -/
def skipWhile (p : UInt8 → Bool) (line : ByteArray) (i : Nat) : Nat :=
  (line.findIdx? (!p ·) i).getD line.size

/-- Goes over so many words. With a separator, the one behind the last word is gone over only if
`past` says so. -/
def skipWords (separator : Separator) (line : ByteArray) (past : Bool) (i : Nat) : Nat → Nat
  | 0 => i
  | words + 1 =>
    if line.size ≤ i then line.size
    else match separator with
      | none =>
        let i := skipWhile (!isBlank ·) line (skipWhile isBlank line i)
        skipWords separator line past i words
      | some stop =>
        let i := skipWhile (· != stop) line i
        let i := if i < line.size && (past || words != 0) then i + 1 else i
        skipWords separator line past i words

def partStart (separator : Separator) (k : Key) (line : ByteArray) : Nat :=
  let i := match k.firstWord with
    | none => 0
    | some words => skipWords separator line true 0 words
  let i := if k.skipsFirst then skipWhile isBlank line i else i
  min line.size (i + k.firstChar)

def partEnd (separator : Separator) (k : Key) (line : ByteArray) : Nat :=
  match k.lastWord with
  | none => line.size
  | some words =>
    if k.lastChar == 0 then skipWords separator line false 0 (words + 1)
    else
      let i := skipWords separator line true 0 words
      let i := if k.skipsLast then skipWhile isBlank line i else i
      min line.size (i + k.lastChar)

/-- The bytes of a part, without those that do not count, in capitals if the key says so. -/
def partOf (separator : Separator) (k : Key) (line : ByteArray) : ByteArray :=
  let part := line.extract (partStart separator k line) (partEnd separator k line)
  let isWordPart (b : UInt8) : Bool := isBlank b || (Char.ofNat b.toNat).isAlphanum && b < 128
  let part :=
    if k.has 'd' then part.foldl (fun out b => if isWordPart b then out.push b else out) .empty
    else if k.has 'i' then
      part.foldl (fun out b => if 32 ≤ b && b < 127 then out.push b else out) .empty
    else part
  if k.has 'f' then
    part.foldl (fun out b => out.push (if 97 ≤ b && b ≤ 122 then b - 32 else b)) .empty
  else part

/-! ## Weights -/

/-- What a part is compared by. -/
inductive Weight where
  | text (bytes : ByteArray)
  /-- A decimal number as a whole number of units of `10 ^ -places`, after a unit that goes first. -/
  | decimal (unit : Int) (n : Int) (places : Nat)
  /-- A general number; others come first, and what is no number before those. -/
  | general (kind : Nat) (x : Floating)
  | version (text : String)

def Weight.compare : Weight → Weight → Ordering
  | text a, text b => Collation.bytes a b
  | decimal u m p, decimal v n q =>
    (Ord.compare u v).then (Ord.compare (m * (10 ^ q : Nat)) (n * (10 ^ p : Nat)))
  | general k x, general l y =>
    (Ord.compare k l).then (if x.lt y then .lt else if y.lt x then .gt else .eq)
  | version a, version b => Collation.versions a b
  | _, _ => .eq

/-- A decimal number at the start of a text, and what follows it. -/
def decimalAt (cs : List Char) : Int × Nat × List Char :=
  let (isNegative, cs) := match cs with
    | '-' :: cs => (true, cs)
    | cs => (false, cs)
  let whole := cs.takeWhile Char.isDigit
  let rest := cs.drop whole.length
  let (fraction, rest) := match rest with
    | '.' :: more =>
      let ds := more.takeWhile Char.isDigit
      (ds, more.drop ds.length)
    | rest => ([], rest)
  let n := (whole ++ fraction).foldl (fun n c => 10 * n + (c.toNat - '0'.toNat)) 0
  (if isNegative then -(n : Int) else n, fraction.length, rest)

/-- The letters that stand for powers of a thousand. -/
def units : List (Char × Int) := [
  ('K', 1), ('k', 1), ('M', 2), ('G', 3), ('T', 4), ('P', 5), ('E', 6), ('Z', 7), ('Y', 8)]

def months : List String :=
  ["JAN", "FEB", "MAR", "APR", "MAY", "JUN", "JUL", "AUG", "SEP", "OCT", "NOV", "DEC"]

def weigh (k : Key) (part : ByteArray) : Weight :=
  let text := ByteText.ofBytes part
  let isSpace (c : Char) : Bool := c == ' ' || c == '\t' || c == '\n'
  let cs := text.toList.dropWhile isSpace
  if k.has 'n' then
    let (n, places, _) := decimalAt cs
    .decimal 0 n places
  else if k.has 'g' then
    match Floating.read? .extended text.toList with
    | none => .general 0 (.finite false 0 0)
    | some (.nan _, _, _) => .general 1 (.finite false 0 0)
    | some (x, _, _) => .general 2 x
  else if k.has 'h' then
    let (n, places, rest) := decimalAt cs
    let unit := if n == 0 then 0 else ((rest.head?.bind fun c => List.lookup c units).getD 0)
    .decimal (if n < 0 then -unit else unit) n places
  else if k.has 'M' then
    let name := String.ofList ((cs.take 3).map Char.toUpper)
    .decimal 0 (match months.idxOf? name with | some i => i + 1 | none => 0) 0
  else if k.has 'V' then .version text
  else .text part

/-! ## Lines -/

/-- A line with what its keys weigh. -/
structure Line where
  text : ByteArray
  weights : List Weight

structure Order where
  keys : List Key := []
  separator : Separator := none
  reverses : Bool := false
  /-- Whether lines whose keys are alike are left as they are. -/
  isStable : Bool := false
  isUnique : Bool := false

namespace Order

def line (o : Order) (text : ByteArray) : Line :=
  { text, weights := o.keys.map fun k => weigh k (partOf o.separator k text) }

def byKeys : List Key → List Weight → List Weight → Ordering
  | k :: ks, a :: as, b :: bs =>
    let order := a.compare b
    (if k.has 'r' then order.swap else order).then (byKeys ks as bs)
  | _, _, _ => .eq

def compare (o : Order) (a b : Line) : Ordering :=
  let order := byKeys o.keys a.weights b.weights
  if order != .eq || (!o.keys.isEmpty && (o.isStable || o.isUnique)) then order
  else
    let order := Collation.bytes a.text b.text
    if o.reverses then order.swap else order

def le (o : Order) (a b : Line) : Bool := o.compare a b != .gt

/-- The first of each run of lines that are alike. -/
def dropRepeats (o : Order) (lines : List Line) : List Line :=
  (lines.foldl
    (fun ((kept, last) : List Line × Option Line) l => match last with
      | some k => if o.compare k l == .eq then (kept, last) else (l :: kept, some l)
      | none => (l :: kept, some l))
    ([], none)).1.reverse

/-- The number of the first line that does not belong behind the one before it, and the line. -/
def disorder? (o : Order) (lines : List Line) : Option (Nat × Line) :=
  let bad (a b : Line) : Bool :=
    let order := o.compare a b
    order == .gt || (o.isUnique && order == .eq)
  ((lines.zip (lines.drop 1)).zipIdx.find? fun ((a, b), _) => bad a b).map
    fun ((_, b), i) => (i + 2, b)

end Order

end Sorting
end PipeShell.Host.Tool
