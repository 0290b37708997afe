import PipeShell.Host.Tool.Basic

/-! # Chance

Numbers that are drawn from bytes: from those that the host makes up, or from those of a file, which
give the same numbers each time. No byte is lost: what a number leaves of them goes into the next. -/

namespace PipeShell.Host.Tool

/-- A source of numbers. -/
structure Chance where
  /-- The bytes that it draws on; nothing behind the last one. -/
  byte? : Nat → Option UInt8
  /-- How many bytes have been used. -/
  used : Nat := 0
  /-- A number that has been drawn and not been used, and the greatest it could be. -/
  number : Nat := 0
  greatest : Nat := 0

namespace Chance

/-- How large a machine word can be. -/
def word : Nat := 2 ^ 64

/-- Adds bytes to the number that is left until it can be as large as is wanted. The number bounds
how many bytes that takes. -/
def fill (most : Nat) (c : Chance) : Nat → Option Chance
  | 0 => some c
  | fuel + 1 =>
    if most ≤ c.greatest then some c
    else match c.byte? c.used with
      | none => none
      | some b =>
        let c := { c with
          used := c.used + 1, number := (c.number * 256 + b.toNat) % word
          greatest := (c.greatest * 256 + 255) % word }
        fill most c fuel

/-- Draws a number below another one, unless the bytes are over. A number that would favour some of
the choices is drawn again. The number bounds how often. -/
def below (choices : Nat) (c : Chance) : Nat → Option (Nat × Chance)
  | 0 => some (0, c)
  | fuel + 1 => do
    let most := choices - 1
    let c ← c.fill most 8
    if c.greatest == most then return (c.number, { c with number := 0, greatest := 0 })
    let excess := c.greatest - most
    let unusable := excess % choices
    if c.number ≤ c.greatest - unusable then
      return (c.number % choices, { c with number := c.number / choices, greatest := excess / choices })
    below choices { c with number := c.number % choices, greatest := unusable - 1 } fuel

/-- More draws than any number takes. -/
def manyDraws : Nat := 10000

def draw (choices : Nat) (c : Chance) : Option (Nat × Chance) := c.below choices manyDraws

/-- Chance as the host makes it up. -/
def ofHost : Tool Chance := do
  let clock ← act Act.now
  return { byte? := fun i => some (World.noise clock i) }

def ofBytes (bytes : ByteArray) : Chance where
  byte? i := bytes[i]?

end Chance
end PipeShell.Host.Tool
