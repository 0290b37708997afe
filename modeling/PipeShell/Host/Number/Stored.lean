import PipeShell.Host.Number.Floating

/-! # Stored floating numbers

How a floating number stands in memory: its sign, its exponent and its fraction, each in so many
bits. A stored number is shown with as few digits as lead back to it. -/

namespace PipeShell.Host.Number

/-- A format in memory. -/
structure Storage where
  precision : Precision
  fractionBits : Nat
  exponentBits : Nat
  /-- How many digits lead to a number and back again. -/
  safeDigits : Nat
  /-- How many digits are always enough for a number. -/
  enoughDigits : Nat

namespace Storage

def single : Storage := ⟨⟨24, -149, 104⟩, 23, 8, 6, 9⟩

def double : Storage := ⟨.double, 52, 11, 15, 17⟩

def extended : Storage := ⟨.extended, 64, 15, 18, 21⟩

variable (s : Storage)

/-- Whether the first digit of a mantissa is stored like the others. -/
def isFull : Bool := s.precision.bits == s.fractionBits

/-- The number that bits stand for. Where the first digit is stored and is not there, a number with
an exponent is none. -/
def decode (bits : Nat) : Floating :=
  let fraction := bits % 2 ^ s.fractionBits
  let exponent := bits / 2 ^ s.fractionBits % 2 ^ s.exponentBits
  let negative := bits / 2 ^ (s.fractionBits + s.exponentBits) % 2 == 1
  let first := 2 ^ (s.precision.bits - 1)
  if exponent == 0 then .finite negative fraction s.precision.least
  else if s.isFull && fraction < first then .nan negative
  else if exponent == 2 ^ s.exponentBits - 1 then
    if fraction % first == 0 then .infinite negative else .nan negative
  else .finite negative (if s.isFull then fraction else first + fraction) (s.precision.least + exponent - 1)

/-- Whether a number has fewer digits than its format. -/
def isReduced : Floating → Bool
  | .finite _ m e => e ≤ s.precision.least && m < 2 ^ (s.precision.bits - 1)
  | _ => false

/-- A number with the fewest digits that lead back to it. -/
def shortest (x : Floating) : String :=
  let sign := if x.isNegative then "-" else ""
  let text (digits : Nat) : String := sign ++ x.shown s.precision 'g' (some digits) false
  let leadsBack (text : String) : Bool :=
    match Floating.read? s.precision text.toList with
    | some (y, _, _) => !x.lt y && !y.lt x
    | none => false
  let least := if s.isReduced x then 1 else s.safeDigits
  ((List.range' least (s.enoughDigits - least)).find? fun n => leadsBack (text n)).elim
    (text s.enoughDigits) text

end Storage
end PipeShell.Host.Number
