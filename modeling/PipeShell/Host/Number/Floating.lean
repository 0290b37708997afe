import PipeShell.Power

/-! # Floating numbers

Numbers as tools compute with them: a mantissa times a power of two, with as many bits as the
format has. Text is read into the nearest such number, half way to the even one, and a number is
shown with digits that are rounded the same way. Both ways all values in between are exact. -/

namespace PipeShell.Host.Number

inductive Floating where
  | finite (negative : Bool) (mantissa : Nat) (exponent : Int)
  | infinite (negative : Bool)
  | nan (negative : Bool)
  deriving Repr, DecidableEq

/-- How many bits a mantissa has, and the least and greatest exponent. -/
structure Precision where
  bits : Nat
  least : Int
  greatest : Int

def Precision.double : Precision := ⟨53, -1074, 971⟩

def Precision.extended : Precision := ⟨64, -16445, 16320⟩

namespace Floating

/-- The nearest whole number to a quotient, half way the even one. -/
def nearest (num den : Nat) : Nat :=
  let q := num / den
  let r := num % den
  if den < 2 * r || (2 * r == den && q % 2 == 1) then q + 1 else q

/-- A numerator and a denominator for a number times a power. -/
def timesPower (num den base : Nat) (exponent : Int) : Nat × Nat :=
  if 0 ≤ exponent then (num * base ^ exponent.toNat, den) else (num, den * base ^ (-exponent).toNat)

/-- The nearest number of a format to a quotient, and whether it is out of range. -/
def ofQuotient (p : Precision) (negative : Bool) (num den : Nat) : Floating × Bool :=
  if num == 0 then (.finite negative 0 0, false)
  else
    let guess : Int := (num.log2 : Int) - den.log2 - p.bits
    let quotient (e : Int) : Nat := let (n, d) := timesPower num den 2 (-e); n / d
    let e := if quotient guess < 2 ^ p.bits then guess else guess + 1
    let e := max e p.least
    let (n, d) := timesPower num den 2 (-e)
    let m := nearest n d
    if p.greatest < e || (e == p.greatest && 2 ^ p.bits ≤ m) then (.infinite negative, true)
    else (.finite negative m e, m < 2 ^ (p.bits - 1) && n % d != 0)

/-! ## Reading -/

def hexValue? (c : Char) : Option Nat :=
  if c.isDigit then some (c.toNat - '0'.toNat)
  else if 'a' ≤ c && c ≤ 'f' then some (c.toNat - 'a'.toNat + 10)
  else if 'A' ≤ c && c ≤ 'F' then some (c.toNat - 'A'.toNat + 10)
  else none

def digitValue? (base : Nat) (c : Char) : Option Nat :=
  match hexValue? c with
  | some d => if d < base then some d else none
  | none => none

/-- The value of digits in front of and behind a point, how many stand behind it, whether there
is any digit, and the rest. -/
def mantissa (base : Nat) (cs : List Char) : Nat × Nat × Bool × List Char :=
  let isDigit (c : Char) : Bool := (digitValue? base c).isSome
  let value (n : Nat) (ds : List Char) : Nat :=
    ds.foldl (fun n c => base * n + (digitValue? base c).getD 0) n
  let whole := cs.takeWhile isDigit
  match cs.drop whole.length with
  | '.' :: rest =>
    let fraction := rest.takeWhile isDigit
    if whole.isEmpty && fraction.isEmpty then (0, 0, false, cs)
    else (value (value 0 whole) fraction, fraction.length, true, rest.drop fraction.length)
  | rest => (value 0 whole, 0, !whole.isEmpty, rest)

/-- An exponent behind its letter, if there is one, and the rest. Far out it makes no difference
how large it is. -/
def exponentAt (letter : Char) (cs : List Char) : Int × List Char :=
  match cs with
  | c :: after =>
    if c.toLower != letter then (0, cs)
    else
      let (negative, digits) := match after with
        | '-' :: rest => (true, rest)
        | '+' :: rest => (false, rest)
        | rest => (false, rest)
      let ds := digits.takeWhile Char.isDigit
      if ds.isEmpty then (0, cs)
      else
        let n := ds.foldl (fun n d => min 100000 (10 * n + (d.toNat - '0'.toNat))) 0
        (if negative then -n else n, digits.drop ds.length)
  | [] => (0, [])

/-- Takes a word in small or capital letters from the start. -/
def word? (word : String) (cs : List Char) : Option (List Char) :=
  let taken := cs.take word.length
  if taken.map Char.toLower == word.toList then some (cs.drop word.length) else none

def isSpace (c : Char) : Bool := c == ' ' || (9 ≤ c.toNat && c.toNat ≤ 13)

/-- What stands behind the word for no number, in parentheses. -/
def skipPayload (cs : List Char) : List Char :=
  match cs with
  | '(' :: rest =>
    let inside := rest.takeWhile fun c => c.isAlphanum || c == '_'
    match rest.drop inside.length with
    | ')' :: rest => rest
    | _ => cs
  | _ => cs

/-- A number from digits and a power, unless the power is so far out that the digits make no
difference. -/
def ofScaled (p : Precision) (negative : Bool) (digits base : Nat) (exponent : Int) :
    Floating × Bool :=
  if digits == 0 then (.finite negative 0 0, false)
  else
    let size : Int := digits.log2 + exponent * (base.log2 + 1)
    if 0 < exponent && 60000 < size then (.infinite negative, true)
    else if exponent < 0 && digits.log2 + exponent * base.log2 < -90000 then
      (.finite negative 0 0, true)
    else
      let (n, d) := timesPower digits 1 base exponent
      ofQuotient p negative n d

/-- A number at the start of a text, whether it is out of range, and the rest. -/
def read? (p : Precision) (cs : List Char) : Option (Floating × Bool × List Char) :=
  let cs := cs.dropWhile isSpace
  let (negative, cs) := match cs with
    | '-' :: rest => (true, rest)
    | '+' :: rest => (false, rest)
    | rest => (false, rest)
  match word? "infinity" cs, word? "inf" cs, word? "nan" cs with
  | some rest, _, _ | none, some rest, _ => some (.infinite negative, false, rest)
  | _, _, some rest => some (.nan negative, false, skipPayload rest)
  | none, none, none =>
    let decimal : Option (Floating × Bool × List Char) :=
      match mantissa 10 cs with
      | (digits, behind, true, rest) =>
        let (e, rest) := exponentAt 'e' rest
        let (x, far) := ofScaled p negative digits 10 (e - behind)
        some (x, far, rest)
      | _ => none
    match cs with
    | '0' :: x :: hex =>
      if x != 'x' && x != 'X' then decimal
      else match mantissa 16 hex with
        | (digits, behind, true, rest) =>
          let (e, rest) := exponentAt 'p' rest
          let (x, far) := ofScaled p negative digits 2 (e - 4 * behind)
          some (x, far, rest)
        | _ => decimal
    | _ => decimal

/-! ## Showing -/

def isNegative : Floating → Bool
  | .finite negative .. | .infinite negative | .nan negative => negative

def repeated (c : Char) (n : Nat) : String := String.ofList (List.replicate n c)

/-- A whole number with at least so many digits. -/
def padded (n width : Nat) : String :=
  let digits := toString n
  repeated '0' (width - digits.length) ++ digits

/-- Digits with a point before the last `places` of them. -/
def pointed (digits : String) (places : Nat) (alternate : Bool) : String :=
  let cs := digits.toList
  let whole := String.ofList (cs.take (cs.length - places))
  if places == 0 then whole ++ (if alternate then "." else "")
  else whole ++ "." ++ String.ofList (cs.drop (cs.length - places))

/-- The number as a quotient. -/
def quotient (m : Nat) (e : Int) : Nat × Nat := timesPower m 1 2 e

/-- With so many places behind the point. -/
def fixed (m : Nat) (e : Int) (places : Nat) (alternate : Bool) : String :=
  let (n, d) := quotient m e
  pointed (padded (nearest (n * 10 ^ places) d) (places + 1)) places alternate

/-- The power of ten that the first digit of a quotient stands for. -/
def leading (n d : Nat) : Int :=
  let fits (x : Int) : Bool := let (a, b) := timesPower n d 10 (-x); b ≤ a
  let guess : Int := ((n.log2 : Int) - d.log2) * 30103 / 100000
  let candidates : List Int := [guess + 2, guess + 1, guess, guess - 1, guess - 2]
  (candidates.find? fits).getD guess

/-- The digits with so many behind the first, and the power of ten of the first. -/
def digitsAt (m : Nat) (e : Int) (places : Nat) : Nat × Int :=
  if m == 0 then (0, 0)
  else
    let (n, d) := quotient m e
    let x := leading n d
    let (a, b) := timesPower n d 10 (places - x)
    let digits := nearest a b
    if digits == 10 ^ (places + 1) then (digits / 10, x + 1) else (digits, x)

def exponentText (x : Int) : String :=
  (if x < 0 then "-" else "+") ++ padded x.natAbs 2

def withoutZeros (text : String) : String :=
  if text.toList.contains '.' then
    let cs := text.toList.reverse.dropWhile (· == '0')
    String.ofList (if cs.head? == some '.' then cs.drop 1 else cs).reverse
  else text

/-- One digit before the point, so many behind it, and a power of ten. -/
def scientific (m : Nat) (e : Int) (places : Nat) (alternate : Bool) : String :=
  let (digits, x) := digitsAt m e places
  pointed (padded digits (places + 1)) places alternate ++ "e" ++ exponentText x

/-- So many digits, with a power of ten only where it is needed. -/
def general (m : Nat) (e : Int) (precision : Nat) (alternate : Bool) : String :=
  let precision := max precision 1
  let (digits, x) := digitsAt m e (precision - 1)
  let trim (text : String) : String := if alternate then text else withoutZeros text
  if -4 ≤ x && x < precision then trim (fixed m e (precision - 1 - x).toNat alternate)
  else
    trim (pointed (padded digits precision) (precision - 1) alternate) ++ "e" ++ exponentText x

/-- In hexadecimal digits and a power of two. The digit before the point is a full one if a
mantissa has 64 bits, and one otherwise. -/
def hexadecimal (p : Precision) (m : Nat) (e : Int) (places : Option Nat) (alternate : Bool) :
    String :=
  let behind : Nat := if p.bits == 64 then 60 else 52
  let hex (n : Nat) : String := String.ofList (Nat.toDigits 16 n)
  let (m, e) := if m == 0 then (0, -(behind : Int))
    else
      let shift := min (p.bits - 1 - m.log2) (e - p.least).toNat
      (m * 2 ^ shift, e - shift)
  let (digits, count) := match places with
    | none => (m, behind / 4)
    | some n => if behind / 4 ≤ n then (m * 16 ^ (n - behind / 4), n)
      else (nearest m (16 ^ (behind / 4 - n)), n)
  let text := hex digits
  let text := repeated '0' (count + 1 - text.length) ++ text
  let text := pointed text count alternate
  let text := if places.isNone && !alternate then withoutZeros text else text
  let x := e + behind
  "0x" ++ text ++ "p" ++ (if x < 0 then "-" else "+") ++ toString x.natAbs

/-- A number without its sign, as the letter of a conversion asks for it. -/
def shown (p : Precision) (letter : Char) (precision : Option Nat) (alternate : Bool)
    (x : Floating) : String :=
  let text := match x with
    | .infinite _ => "inf"
    | .nan _ => "nan"
    | .finite _ m e => match letter.toLower with
      | 'f' => fixed m e (precision.getD 6) alternate
      | 'e' => scientific m e (precision.getD 6) alternate
      | 'a' => hexadecimal p m e precision alternate
      | _ => general m e (precision.getD 6) alternate
  if letter.isUpper then text.map Char.toUpper else text

/-! ## Calculating and comparing -/

/-- The nearest number of a format to a whole number times a power of two. -/
def ofScaledInt (p : Precision) (n : Int) (e : Int) : Floating :=
  let (num, den) := timesPower n.natAbs 1 2 e
  (ofQuotient p (n < 0) num den).1

def ofInt (p : Precision) (n : Int) : Floating := ofScaledInt p n 0

/-- The mantissa with its sign. -/
def signed (negative : Bool) (m : Nat) : Int := if negative then -(m : Int) else m

/-- The sum, rounded. -/
def add (p : Precision) : Floating → Floating → Floating
  | .finite n a e, .finite k b f =>
    let low := min e f
    ofScaledInt p (signed n a * 2 ^ (e - low).toNat + signed k b * 2 ^ (f - low).toNat) low
  | .nan n, _ | _, .nan n => .nan n
  | .infinite n, .infinite k => if n == k then .infinite n else .nan true
  | .infinite n, _ | _, .infinite n => .infinite n

/-- The product, rounded. -/
def mul (p : Precision) : Floating → Floating → Floating
  | .finite n a e, .finite k b f => ofScaledInt p (signed n a * signed k b) (e + f)
  | .nan n, _ | _, .nan n => .nan n
  | .infinite n, .finite k b _ | .finite k b _, .infinite n =>
    if b == 0 then .nan true else .infinite (n != k)
  | .infinite n, .infinite k => .infinite (n != k)

/-- The quotient, rounded. -/
def div (p : Precision) : Floating → Floating → Floating
  | .finite n a e, .finite k b f =>
    if b == 0 then (if a == 0 then .nan true else .infinite (n != k))
    else
      let (num, den) := timesPower a b 2 (e - f)
      (ofQuotient p (n != k) num den).1
  | .nan n, _ | _, .nan n => .nan n
  | .infinite n, .finite k .. => .infinite (n != k)
  | .finite n .., .infinite k => .finite (n != k) 0 0
  | .infinite _, .infinite _ => .nan true

def neg : Floating → Floating
  | .finite n m e => .finite (!n) m e
  | .infinite n => .infinite (!n)
  | .nan n => .nan (!n)

def abs : Floating → Floating
  | .finite _ m e => .finite false m e
  | .infinite _ => .infinite false
  | .nan _ => .nan false

/-- The whole part, without what is behind the point. -/
def truncated : Floating → Int
  | .finite n m e =>
    let (num, den) := timesPower m 1 2 e
    signed n (num / den)
  | _ => 0

def isZero : Floating → Bool
  | .finite _ m _ => m == 0
  | _ => false

/-- Whether a number comes before another one; zeros are equal. -/
def lt : Floating → Floating → Bool
  | .finite n a e, .finite k b f =>
    let low := min e f
    let value (negative : Bool) (m : Nat) (e : Int) : Int :=
      let v : Int := m * 2 ^ (e - low).toNat
      if negative then -v else v
    value n a e < value k b f
  | .infinite negative, .infinite other => negative && !other
  | .infinite negative, .finite .. => negative
  | .finite .., .infinite negative => !negative
  | _, _ => false

end Floating
end PipeShell.Host.Number
