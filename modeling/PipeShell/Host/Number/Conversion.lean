import PipeShell.Host.Number.Floating

/-! # Conversions

How a value is laid out: its sign, its least number of digits and the width that it is padded
to. -/

namespace PipeShell.Host.Number

structure Conversion where
  left : Bool := false
  plus : Bool := false
  blank : Bool := false
  zeros : Bool := false
  alternate : Bool := false
  width : Nat := 0
  precision : Option Nat := none

namespace Conversion

variable (c : Conversion)

/-- Fills up to the width. Zeros go behind the sign, if they may stand there. -/
def pad (zeros : Bool) (sign body : String) : String :=
  let missing := c.width - (sign.length + body.length)
  if c.left then sign ++ body ++ Floating.repeated ' ' missing
  else if zeros then sign ++ Floating.repeated '0' missing ++ body
  else Floating.repeated ' ' missing ++ sign ++ body

def sign (negative : Bool) : String :=
  if negative then "-" else if c.plus then "+" else if c.blank then " " else ""

/-- A text, cut to the precision. -/
def text (text : String) : String :=
  c.pad false "" (match c.precision with
    | some n => String.ofList (text.toList.take n)
    | none => text)

def char (chr : Char) : String := c.pad false "" (String.ofList [chr])

/-- Digits with the least number of them that the precision asks for. -/
def digits (sign text : String) (isZero : Bool) : String :=
  let text := if isZero && c.precision == some 0 then "" else text
  let text := Floating.repeated '0' (c.precision.getD 0 - text.length) ++ text
  c.pad (c.zeros && c.precision.isNone) sign text

def signed (n : Int) : String := c.digits (c.sign (n < 0)) (toString n.natAbs) (n == 0)

/-- A number without a sign, in the base that the letter stands for. -/
def unsigned (letter : Char) (n : Nat) : String :=
  let text (base : Nat) : String := String.ofList (Nat.toDigits base n)
  match letter with
  | 'o' =>
    let octal := text 8
    if c.alternate && (n != 0 || c.precision == some 0) && c.precision.getD 0 ≤ octal.length then
      if n == 0 then c.pad (c.zeros && c.precision.isNone) "" "0"
      else c.digits "" ("0" ++ octal) false
    else c.digits "" octal (n == 0)
  | 'x' => c.digits (if c.alternate && n != 0 then "0x" else "") (text 16) (n == 0)
  | 'X' => c.digits (if c.alternate && n != 0 then "0X" else "") ((text 16).map Char.toUpper) (n == 0)
  | _ => c.digits "" (toString n) (n == 0)

def floating (p : Precision) (letter : Char) (x : Floating) : String :=
  let body := x.shown p letter c.precision c.alternate
  let sign := c.sign x.isNegative
  match x with
  | .finite .. =>
    if letter.toLower == 'a' then
      c.pad c.zeros (sign ++ String.ofList (body.toList.take 2)) (String.ofList (body.toList.drop 2))
    else c.pad c.zeros sign body
  | _ => c.pad false sign body

end Conversion
end PipeShell.Host.Number
