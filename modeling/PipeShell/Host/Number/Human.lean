import PipeShell.Power

/-! # Sizes for people

Counts of blocks in larger blocks, or in the largest unit that suits them. What does not come out
even is rounded up. -/

namespace PipeShell.Host.Number

/-- How sizes are shown. -/
structure Human where
  /-- The unit is chosen for each size. -/
  scales : Bool := false
  /-- Units are powers of 1024, else of 1000. -/
  binary : Bool := false
  /-- The letter of the unit stands behind the number. -/
  unit : Bool := false
  /-- A `B` stands behind the letter. -/
  byte : Bool := false
  /-- The size of a block, if the unit is not chosen. -/
  block : Nat := 1024
  deriving Repr, DecidableEq

namespace Human

def base (h : Human) : Nat := if h.binary then 1024 else 1000

def unitLetters : List Char := ['0', 'K', 'M', 'G', 'T', 'P', 'E', 'Z', 'Y']

def maxExponent : Nat := 8

/-- What is behind a unit: the letter of its exponent, and more letters. -/
def suffix (h : Human) (exponent : Nat) : String :=
  if !h.unit then ""
  else
    let letter := if !h.binary && exponent == 1 then 'k' else unitLetters.getD exponent ' '
    (if exponent == 0 then "" else String.ofList [letter]) ++
      (if h.byte then (if h.binary && exponent != 0 then "iB" else "B") else "")

/-- The exponent of the unit that a block is. -/
def blockExponent (h : Human) : Nat :=
  ((List.range maxExponent).takeWhile fun e => h.base ^ e < h.block).length

/-- The largest exponent whose unit is not larger than the size. -/
def exponentOf (h : Human) (bytes : Nat) : Nat :=
  ((List.range maxExponent).takeWhile fun e => h.base ^ (e + 1) ≤ bytes).length

def upTo (a b : Nat) : Nat := (a + b - 1) / b

/-- A number of bytes. Where the unit is chosen, a number below ten has a digit behind the point. -/
def shown (h : Human) (bytes : Nat) : String :=
  if !h.scales then toString (upTo bytes (max h.block 1)) ++ h.suffix h.blockExponent
  else
    let exponent := h.exponentOf bytes
    let unit := h.base ^ exponent
    let tenths := upTo (bytes * 10) unit
    if exponent == 0 then toString bytes ++ h.suffix 0
    else if tenths < 100 then s!"{tenths / 10}.{tenths % 10}" ++ h.suffix exponent
    else
      let n := upTo bytes unit
      -- A size that is rounded up to the next unit is shown in that.
      if n == h.base && exponent < maxExponent then "1.0" ++ h.suffix (exponent + 1)
      else toString n ++ h.suffix exponent

end Human
end PipeShell.Host.Number
