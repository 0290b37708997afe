/-! # Sets of characters

A set of characters is a list of closed ranges of code points, in ascending order and with gaps
between them, so that a set is written in one way only. -/

namespace PipeShell.Text

structure CharSet where
  ranges : List (Nat × Nat)
  deriving DecidableEq, Repr, Inhabited

namespace CharSet

/-- Whether the set holds a character. -/
def has (s : CharSet) (c : Char) : Bool :=
  s.ranges.any fun (first, last) => first ≤ c.toNat && c.toNat ≤ last

def empty : CharSet := ⟨[]⟩

def isEmpty (s : CharSet) : Bool := s.ranges.isEmpty

/-- Puts ranges in ascending order together, where they touch or overlap. -/
def joined : List (Nat × Nat) → List (Nat × Nat)
  | [] => []
  | (first, last) :: rest => match joined rest with
    | (next, end') :: more =>
      if next ≤ last + 1 then (first, max last end') :: more else (first, last) :: (next, end') :: more
    | [] => [(first, last)]

/-- The set that ranges in any order make. -/
def ofRanges (ranges : List (Nat × Nat)) : CharSet :=
  ⟨joined (ranges.mergeSort fun a b => a.1 ≤ b.1)⟩

def single (c : Char) : CharSet := ⟨[(c.toNat, c.toNat)]⟩

def range (first last : Char) : CharSet := ⟨[(first.toNat, last.toNat)]⟩

/-- The greatest code point. -/
def greatest : Nat := 0x10FFFF

/-- The code points from `next` on that are in none of the ranges. -/
def gaps (next : Nat) : List (Nat × Nat) → List (Nat × Nat)
  | [] => if next ≤ greatest then [(next, greatest)] else []
  | (first, last) :: rest =>
    (if next < first then [(next, first - 1)] else []) ++ gaps (last + 1) rest

def complement (s : CharSet) : CharSet := ⟨gaps 0 s.ranges⟩

def union (s t : CharSet) : CharSet := ofRanges (s.ranges ++ t.ranges)

def inter (s t : CharSet) : CharSet := (s.complement.union t.complement).complement

def diff (s t : CharSet) : CharSet := s.inter t.complement

/-- What is in one of two sets, but not in both. -/
def symmDiff (s t : CharSet) : CharSet := (s.diff t).union (t.diff s)

/-- Whether all characters of the set are ASCII. -/
def isAscii (s : CharSet) : Bool := s.ranges.all fun (_, last) => last < 128

/-- The character of a set that has only one. -/
def only? (s : CharSet) : Option Char :=
  match s.ranges with
  | [(first, last)] => if first = last then some (Char.ofNat first) else none
  | _ => none

/-- The ASCII letters of a range, in the other case. -/
def otherCase (range : Nat × Nat) : List (Nat × Nat) :=
  let part (low high shift : Nat) (f : Nat → Nat → Nat) : List (Nat × Nat) :=
    let first := max low range.1
    let last := min high range.2
    if first ≤ last then [(f first shift, f last shift)] else []
  part 65 90 32 (· + ·) ++ part 97 122 32 (· - ·)

/-- The set with all ASCII letters in both cases. -/
def bothCases (s : CharSet) : CharSet := ofRanges (s.ranges ++ s.ranges.flatMap otherCase)

end CharSet
end PipeShell.Text
