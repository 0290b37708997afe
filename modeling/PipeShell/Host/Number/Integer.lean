import PipeShell.Host.Number.Floating

/-! # Whole numbers in text

A whole number may stand in base ten, in base eight behind a zero or in base sixteen behind `0x`,
with blanks and a sign in front. Machine words hold it only within bounds. -/

namespace PipeShell.Host.Number.Integer

def bound : Nat := 2 ^ 64

/-- Digits at the start of a text in a base, and the rest; without a digit there is no number. -/
def digits? (base : Nat) (cs : List Char) : Option (Nat × List Char) :=
  let ds := cs.takeWhile fun c => (Floating.digitValue? base c).isSome
  if ds.isEmpty then none
  else some (ds.foldl (fun n c => base * n + (Floating.digitValue? base c).getD 0) 0, cs.drop ds.length)

/-- A number at the start of a text, whether it goes beyond a machine word, and the rest, which is
the whole text if there is no number. A base of zero leaves the choice to the text. -/
def read (base : Nat) (cs : List Char) : Int × Bool × List Char :=
  let spaced := cs.dropWhile Floating.isSpace
  let (negative, unsigned) := match spaced with
    | '-' :: rest => (true, rest)
    | '+' :: rest => (false, rest)
    | rest => (false, rest)
  let found : Option (Nat × List Char) :=
    match unsigned with
    | '0' :: x :: hex =>
      if (x == 'x' || x == 'X') && (base == 0 || base == 16) then
        (digits? 16 hex).or (some (0, x :: hex))
      else digits? (if base == 0 then 8 else base) unsigned
    | '0' :: _ => digits? (if base == 0 then 8 else base) unsigned
    | _ => digits? (if base == 0 then 10 else base) unsigned
  match found with
  | none => (0, false, cs)
  | some (n, rest) => (if negative then -(n : Int) else n, bound ≤ n, rest)

def signedFar (n : Int) (far : Bool) : Bool := far || n < -(2 ^ 63) || 2 ^ 63 ≤ n

def unsignedFar (_ : Int) (far : Bool) : Bool := far

/-- The nearest number that a signed machine word holds. -/
def clampSigned (n : Int) : Int := max (-(2 ^ 63)) (min n (2 ^ 63 - 1))

/-- The number that an unsigned machine word holds in its place. -/
def wrapUnsigned (n : Int) : Int :=
  if n ≤ -(2 ^ 64) || 2 ^ 64 ≤ n then 2 ^ 64 - 1 else n % 2 ^ 64

end PipeShell.Host.Number.Integer
