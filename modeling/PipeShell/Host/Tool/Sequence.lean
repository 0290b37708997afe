import PipeShell.Host.Number.Conversion
import PipeShell.Host.Tool.Options

/-! # The tool `seq`

Numbers from a first to a last one. Whole numbers are counted exactly; others are computed in the
extended format and shown with as many places as the operands have. -/

namespace PipeShell.Host.Tool

open PipeShell.Host.Number

namespace Sequence

/-- A number as it was given. -/
structure Operand where
  value : Floating
  /-- How many characters it takes, and how many of them behind the point; nothing for the latter
  if that cannot be said. -/
  width : Int := 0
  places : Option Nat := none

def one : Operand := { value := .finite false 1 0, width := 1, places := some 0 }

/-- The exponent behind its letter. -/
def exponentOf (cs : List Char) : Int := (Floating.exponentAt 'e' ('e' :: cs)).1

/-- How wide a number is and how many places it has. -/
def layout (value : Floating) (text : String) : Operand :=
  let cs := text.toList.dropWhile fun c => Floating.isSpace c || c == '+'
  let point := cs.idxOf? '.'
  let places : Option Nat := if point.isNone && !cs.contains 'p' then some 0 else none
  let isFinite := match value with
    | .finite .. => true
    | _ => false
  if cs.any (fun c => c == 'x' || c == 'X') || !isFinite then { value, places }
  else
    let width : Int := cs.length
    let isExponent (c : Char) : Bool := c == 'e' || c == 'E'
    let fraction := match point with
      | some i => ((cs.drop (i + 1)).takeWhile (!isExponent ·)).length
      | none => 0
    let (width, places) := match point with
      | none => (width, places)
      | some i =>
        let noDigit := i == 0 || !((cs[i - 1]?).getD ' ').isDigit
        (width + (if fraction == 0 then -1 else if noDigit then 1 else 0), some fraction)
    match cs.findIdx? isExponent with
    | none => { value, width, places }
    | some i =>
      let exponent := exponentOf (cs.drop (i + 1))
      let before := places.getD 0
      let places := if exponent < 0 then before + exponent.natAbs
        else before - min before exponent.toNat
      let width := width - (cs.length - i : Nat)
      let (width, more) : Int × Nat :=
        if exponent < 0 then
          let extra := match point with
            | some p => if i == p + 1 then 1 else 0
            | none => 1
          (width + extra, exponent.natAbs)
        else
          let width := if point.isSome && places == 0 && fraction != 0 then width - 1 else width
          (width, exponent.toNat - min fraction exponent.toNat)
      { value, width := width + more, places := some places }

def operand (text : String) : Tool Operand := do
  match Floating.read? .extended text.toList with
  | some (value, far, []) =>
    if far && !value.isZero then misuse 1 ("invalid floating point argument: " ++ quote text)
    match value with
    | .nan _ => misuse 1 ("invalid " ++ quote "not-a-number" ++ " argument: " ++ quote text)
    | _ => return layout value text
  | _ => misuse 1 ("invalid floating point argument: " ++ quote text)

/-! ## Formats -/

/-- How numbers are shown, between two texts. -/
structure Style where
  before : String := ""
  conversion : Conversion := {}
  letter : Char := 'g'
  after : String := ""

/-- A number without what stands around it. -/
def Style.number (s : Style) (x : Floating) : String := s.conversion.floating .extended s.letter x

def Style.show (s : Style) (x : Floating) : String := s.before ++ s.number x ++ s.after

/-- The text up to a conversion, with doubled percent signs as one. -/
def literal (taken : List Char) : List Char → String × List Char
  | '%' :: '%' :: rest => literal ('%' :: taken) rest
  | '%' :: rest => (String.ofList taken.reverse, '%' :: rest)
  | c :: rest => literal (c :: taken) rest
  | [] => (String.ofList taken.reverse, [])

def styleOf (format : String) : Tool Style := do
  let shown := "format " ++ quote format
  let (before, rest) := literal [] format.toList
  match rest with
  | [] => fail 1 (shown ++ " has no % directive")
  | _ :: rest =>
    let flags := rest.takeWhile ("-+#0 '".toList.contains ·)
    let rest := rest.drop flags.length
    let width := rest.takeWhile Char.isDigit
    let rest := rest.drop width.length
    let number (ds : List Char) : Nat := ds.foldl (fun n c => 10 * n + (c.toNat - '0'.toNat)) 0
    let (precision, rest) := match rest with
      | '.' :: more =>
        let ds := more.takeWhile Char.isDigit
        (some (number ds), more.drop ds.length)
      | rest => (none, rest)
    let rest := match rest with
      | 'L' :: more => more
      | rest => rest
    match rest with
    | [] => fail 1 (shown ++ " ends in %")
    | letter :: rest =>
      if !"efgaEFGA".toList.contains letter then
        fail 1 (shown ++ " has unknown %" ++ String.ofList [letter] ++ " directive")
      let (after, rest) := literal [] rest
      if !rest.isEmpty then fail 1 (shown ++ " has too many % directives")
      let conversion : Conversion := {
        left := flags.contains '-', plus := flags.contains '+', blank := flags.contains ' '
        zeros := flags.contains '0', alternate := flags.contains '#', width := number width
        precision }
      return { before, conversion, letter, after }

/-- How numbers are shown if nothing is said about that. -/
def standardStyle (first step last : Operand) (sameWidth : Bool) : Style :=
  match first.places, step.places, last.places with
  | some p, some q, some r =>
    let places := max p q
    if sameWidth then
      let firstWidth := first.width + (places - p : Nat) + (if p == 0 && places != 0 then 1 else 0)
      let lastWidth := last.width + ((places : Int) - r) +
        (if r != 0 && places == 0 then -1 else if r == 0 && places != 0 then 1 else 0)
      { conversion := { zeros := true, width := (max firstWidth lastWidth).toNat, precision := some places }
        letter := 'f' }
    else { conversion := { precision := some places }, letter := 'f' }
  | _, _, _ => {}

/-! ## Counting -/

/-- Whether a number lies beyond the last one. -/
def isBeyond (step last x : Floating) : Bool :=
  if step.lt (.finite false 0 0) then x.lt last else last.lt x

/-- A number just behind the last one is shown if it looks like the last one and unlike the one
before it. -/
def showsExtra (style : Style) (last before x : Floating) : Bool :=
  let text := style.number x
  match Floating.read? .extended text.toList with
  | some (y, _, []) => !y.lt last && !last.lt y && style.show before != style.show x
  | _ => false

/-- Shows the numbers behind `x`, which has been shown. -/
def goOn (style : Style) (separator : String) (first step last x : Floating) (i : Nat) :
    Nat → Tool Unit
  | 0 => pure ()
  | fuel + 1 => do
    let y := Floating.add .extended first (Floating.mul .extended (Floating.ofInt .extended i) step)
    if isBeyond step last y then
      if showsExtra style last x y then print (separator ++ style.show y)
    else
      print (separator ++ style.show y)
      goOn style separator first step last y (i + 1) fuel

/-- Counts in whole numbers, as far as there is a last one. -/
def count (separator : ByteArray) (step : Nat) (last : Option Nat) (n : Nat) : Nat → Tool Unit
  | 0 => pure ()
  | fuel + 1 => do
    let isLast : Bool := match last with
      | some last => last < n + step
      | none => false
    let digits := (toString n).toUTF8
    if isLast then put (digits.push 10)
    else
      put (digits ++ separator)
      count separator step last (n + step) fuel

def natural? : Floating → Option Nat
  | .finite negative m e =>
    let (num, den) := Floating.quotient m e
    if num % den == 0 && (!negative || m == 0) then some (num / den) else none
  | _ => none

/-- The first number, the step and the last number, if all are given in digits alone and the step is
small. -/
def plain? (words : List String) : Option (Nat × Nat × Nat) := do
  let numbers ← words.mapM fun word =>
    if !word.isEmpty && word.toList.all Char.isDigit then word.toNat? else none
  match numbers with
  | [m] => some (1, 1, m)
  | [n, m] => some (n, 1, m)
  | [n, step, m] => if 0 < step && step ≤ 200 then some (n, step, m) else none
  | _ => none

/-- Whether a word is a number and no option. -/
def isNumber (word : String) : Bool :=
  match word.toList with
  | '-' :: c :: _ => c == '.' || c.isDigit
  | _ => false

/-- The words in front of the first that is a negative number, and the others. -/
def splitWords : List String → List String × List String
  | [] => ([], [])
  | word :: rest =>
    if isNumber word then ([], word :: rest)
    else
      let (before, after) := splitWords rest
      (word :: before, after)

end Sequence

open Sequence in
def seq (call : Call) : Tool Nat := do
  let switches := [.letter 'w' "equal-width" .none, .letter 'f' "format" .required,
    .letter 's' "separator" .required]
  let (words, numbers) := splitWords call.operands
  let p ← parse switches true 1 words
  let operands := p.operands ++ numbers
  let separator := (p.last? "s").getD "\n"
  if operands.isEmpty then missingOperand 1
  if 3 < operands.length then extraOperand 1 (operands.getD 3 "")
  let style ← match p.last? "f" with
    | some format => do pure (some (← styleOf format))
    | none => pure none
  if style.isSome && p.has "w" then
    misuse 1 "format string may not be specified when printing equal width strings"
  let counts := style.isNone && !p.has "w" && separator.length == 1
  if counts then
    if let some (n, step, m) := plain? operands then
      if n ≤ m then
        count (ByteText.toBytes separator) step (some m) n (m + 1 - n)
        return 0
  let (first, step, last) ← match operands with
    | [a] => do pure (one, one, ← operand a)
    | [a, b] => do
      let first ← operand a
      pure (first, one, ← operand b)
    | a :: b :: c :: _ => do
      let first ← operand a
      let step ← operand b
      if step.value.isZero then misuse 1 ("invalid Zero increment value: " ++ quote b)
      pure (first, step, ← operand c)
    | [] => pure (one, one, one)
  let whole (o : Operand) : Option Nat :=
    if o.places == some 0 && !o.value.isNegative then natural? o.value else none
  match whole first, whole step, counts && (whole step).any fun s => 0 < s && s ≤ 200 with
  | some n, some s, true =>
    let isFar := match last.value with
      | .infinite negative => !negative
      | _ => false
    match whole last, isFar with
    | some m, _ =>
      if n ≤ m then count (ByteText.toBytes separator) s (some m) n (m + 1 - n)
      return 0
    | none, true =>
      count (ByteText.toBytes separator) s none n Act.manyReads
      return 0
    | none, false => numbersFrom (standardStyle first step last false) separator first step last
  | _, _, _ =>
    numbersFrom (style.getD (standardStyle first step last (p.has "w"))) separator first step last
where
  /-- Shows the numbers and ends the line, if there are any. -/
  numbersFrom (style : Style) (separator : String) (first step last : Operand) : Tool Nat := do
    if !isBeyond step.value last.value first.value then
      print (style.show first.value)
      goOn style separator first.value step.value last.value first.value 1 Act.manyReads
      print "\n"
    return 0

end PipeShell.Host.Tool
