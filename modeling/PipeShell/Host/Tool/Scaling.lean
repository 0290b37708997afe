import PipeShell.Host.Number.Conversion
import PipeShell.Host.Tool.Amount
import PipeShell.Host.Tool.Columns

/-! # The tool `numfmt`

Numbers are read with or without the letter of a unit, and shown in a unit that suits them. They are
computed in the extended format. -/

namespace PipeShell.Host.Tool

namespace Scaling

open PipeShell.Host.Number

/-- Which units numbers have. -/
inductive Scale where
  | none
  /-- Powers of 1024 if an `i` stands behind the letter, powers of 1000 otherwise. -/
  | auto
  | si | iec
  /-- Powers of 1024, with an `i` behind the letter. -/
  | iecI
  deriving DecidableEq, Repr

inductive Rounding where
  | up | down | fromZero | towardsZero | nearest
  deriving DecidableEq, Repr

/-- What happens if a number cannot be read. -/
inductive Refusal where
  | abort | fail | warn | ignore
  deriving DecidableEq, Repr

structure Wanted where
  source : Scale := .none
  sourceUnit : Nat := 1
  target : Scale := .none
  targetUnit : Nat := 1
  rounding : Rounding := .fromZero
  isGrouped : Bool := false
  padding : Nat := 0
  alignsLeft : Bool := false
  suffix : String := ""
  /-- What separates fields, if that was said. -/
  delimiter : Option Char := none
  /-- Which fields are numbers, if that was said. -/
  fields : Option (List Range.Span) := none
  /-- How many lines are passed over. -/
  header : Nat := 0
  format : Option String := none
  before : String := ""
  after : String := ""
  /-- The width of a number that is filled up with zeros. -/
  zeroWidth : Nat := 0
  places : Option Nat := none
  refusal : Refusal := .abort
  isTalkative : Bool := false
  stop : UInt8 := 10

def precision : Precision := .extended

/-- The letters of units, by their powers. -/
def letters : List Char := ['K', 'M', 'G', 'T', 'P', 'E', 'Z', 'Y']

def baseOf : Scale → Nat
  | .iec | .iecI => 1024
  | _ => 1000

def whole (n : Int) : Floating := .ofInt precision n

def times (x y : Floating) : Floating := .mul precision x y

def plus (x y : Floating) : Floating := .add precision x y

def quotient (x y : Floating) : Floating := .div precision x y

/-- A power, rounded after each factor. -/
def power (base : Nat) : Nat → Floating
  | 0 => whole 1
  | 1 => whole base
  | n + 1 => times (power base n) (whole base)

/-! ## Reading -/

inductive Mistake where
  | tooLarge | noNumber | refusedSuffix | badSuffix | missingI
  deriving DecidableEq, Repr

def Mistake.text (m : Mistake) (input : String) : Message := match m with
  | .tooLarge => "value too large to be converted: " ++ quote input
  | .noNumber => "invalid number: " ++ quote input
  | .refusedSuffix => "rejecting suffix in input: " ++ quote input ++ " (consider using --from)"
  | .badSuffix => "invalid suffix in input: " ++ quote input
  | .missingI => "missing 'i' suffix in input: " ++ quote input ++ " (e.g Ki/Mi/Gi)"

/-- More digits than this are not kept exactly. -/
def exactDigits : Nat := 18

/-- More digits than this are too many. -/
def mostDigits : Nat := 27

/-- A number as it was read. -/
structure Read where
  value : Floating
  negative : Bool
  isExact : Bool
  places : Nat := 0
  rest : List Char

/-- A whole number, perhaps with a sign. It may have no digits in front of a point. -/
def readWhole (cs : List Char) : Except Mistake Read := do
  let (negative, cs) := match cs with
    | '-' :: cs => (true, cs)
    | cs => (false, cs)
  let digits := cs.takeWhile Char.isDigit
  let rest := cs.drop digits.length
  let count := (digits.dropWhile (· == '0')).length
  if mostDigits < count then throw .tooLarge
  if digits.isEmpty && rest.head? != some '.' then throw .noNumber
  let value := digits.foldl
    (fun x c => plus (times x (whole 10)) (whole (c.toNat - '0'.toNat : Nat))) (whole 0)
  return { value := if negative then value.neg else value, negative, isExact := count ≤ exactDigits, rest }

def readDecimal (cs : List Char) : Except Mistake Read := do
  let n ← readWhole cs
  match n.rest with
  | '.' :: cs => do
    let fraction ← readWhole cs
    if fraction.negative then throw .noNumber
    let places := cs.length - fraction.rest.length
    let part := quotient fraction.value (power 10 places)
    return {
      value := plus n.value (if n.negative then part.neg else part), negative := n.negative
      isExact := n.isExact && fraction.isExact, places, rest := fraction.rest }
  | _ => return n

def isBlank (c : Char) : Bool := c == ' ' || c == '\t'

/-- A number with the letter of its unit. -/
def readScaled (scale : Scale) (cs : List Char) : Except Mistake Read := do
  let n ← readDecimal cs
  let (exponent, base, places, rest) : Nat × Nat × Nat × List Char ←
    if n.rest.isEmpty then pure (0, baseOf scale, n.places, [])
    else match n.rest.dropWhile isBlank with
      | c :: rest =>
        match letters.idxOf? c with
        | none => throw .badSuffix
        | some i =>
          if scale = .none then throw .refusedSuffix
          else match scale, rest with
            | .auto, 'i' :: rest => pure (i + 1, 1024, 0, rest)
            | _, rest => pure (i + 1, baseOf scale, 0, rest)
      | [] => if scale = .none then throw .refusedSuffix else pure (0, baseOf scale, 0, [])
  let rest ← match scale, rest with
    | .iecI, 'i' :: rest => pure rest
    | .iecI, _ => throw .missingI
    | _, rest => pure rest
  return { n with value := times n.value (power base exponent), places, rest }

/-! ## Showing -/

/-- Divides by a base until the number is below it; the number and how often that was. -/
def normalized (base : Nat) (x : Floating) : Nat → Floating × Nat
  | 0 => (x, 0)
  | fuel + 1 =>
    if x.abs.lt (whole base) then (x, 0)
    else
      let (x, n) := normalized base (quotient x (whole base)) fuel
      (x, n + 1)

/-- More divisions than any number takes. -/
def manyDivisions : Nat := 5000

def ceiling (x : Floating) : Int :=
  let n := x.truncated
  if (whole n).lt x then n + 1 else n

def floor (x : Floating) : Int := -ceiling x.neg

def roundedSmall (r : Rounding) (x : Floating) : Int :=
  let half : Floating := .finite false 1 (-1)
  match r with
  | .up => ceiling x
  | .down => floor x
  | .fromZero => if x.lt (whole 0) then floor x else ceiling x
  | .towardsZero => x.truncated
  | .nearest => (plus x (if x.lt (whole 0) then half.neg else half)).truncated

/-- A number rounded to a whole one. -/
def rounded (r : Rounding) (x : Floating) : Floating :=
  let most := whole (2 ^ 63 - 1)
  let count := whole (quotient x most).truncated
  let rest := plus x (times most count).neg
  plus (times most count) (whole (roundedSmall r rest))

/-- A number rounded to so many places. -/
def roundedTo (r : Rounding) (places : Nat) (x : Floating) : Floating :=
  quotient (rounded r (times x (power 10 places))) (power 10 places)

/-- A number and the letter of its unit. -/
def shown (w : Wanted) (x : Floating) (places : Nat) : String :=
  let layout (places : Nat) : Conversion :=
    { zeros := w.zeroWidth != 0, width := w.zeroWidth, precision := some places }
  if w.target = .none then
    (layout places).floating precision 'f' (roundedTo w.rounding places x)
  else
    let base := baseOf w.target
    let (x, exponent) := normalized base x manyDivisions
    let adjust := match w.places with
      | some p => min (exponent * 3) p
      | none => if x.abs.lt (whole 10) then 1 else 0
    let x := roundedTo w.rounding adjust x
    let (x, exponent) := if x.abs.lt (whole base) then (x, exponent) else (quotient x (whole base), exponent + 1)
    let hasPoint := !x.isZero && x.abs.lt (whole 10) && 0 < exponent
    let letter : String := match exponent with
      | 0 => ""
      | e + 1 => (letters[e]?.map fun c => String.ofList [c]).getD "(error)"
    (layout (w.places.getD (if hasPoint then 1 else 0))).floating precision 'f' x ++ letter ++
      (if w.target = .iecI && 0 < exponent then "i" else "")

/-! ## Fields -/

/-- Says that a number cannot be converted, and ends the tool if that is wanted. -/
def refuse (w : Wanted) (text : Message) : Tool Unit :=
  match w.refusal with
  | .abort => fail 2 text
  | .ignore => return ()
  | _ => warn text

/-- The number in a text, if it can be converted. -/
def numberIn (w : Wanted) (text : String) : Tool (Option Read) := do
  match readScaled w.source text.toList with
  | .error m =>
    refuse w (m.text text)
    return none
  | .ok n =>
    if n.rest.isEmpty then
      if w.isTalkative && !n.isExact then
        warn ("large input value " ++ quote text ++ ": possible precision loss")
      let scaled := if w.sourceUnit == 1 && w.targetUnit == 1 then n.value
        else quotient (times n.value (whole w.sourceUnit)) (whole w.targetUnit)
      return some { n with value := scaled }
    else
      refuse w ("invalid suffix in input " ++ quote text ++ ": " ++ quote (String.ofList n.rest))
      return none

/-- Whether a number is too large to be shown, which is complained about. -/
def isTooLarge (w : Wanted) (x : Floating) (places : Nat) : Tool Bool := do
  let digits := (normalized 10 x manyDivisions).2
  let short := ({} : Conversion).floating precision 'g' x
  if w.target = .none && exactDigits < digits + places then
    refuse w (if places == 0 then
      "value too large to be printed: '" ++ short ++ "' (consider using --to)"
    else "value/precision too large to be printed: '" ++ short ++ "/" ++ toString places ++
      "' (consider using --to)")
    return true
  if mostDigits - 1 < digits then
    refuse w ("value too large to be printed: '" ++ short ++ "' (cannot handle values > 999Y)")
    return true
  return false

def padded (w : Wanted) (width : Nat) (text : String) : String :=
  let blanks := String.ofList (List.replicate (width - text.length) ' ')
  if w.alignsLeft then text ++ blanks else blanks ++ text

/-- A text without the suffix that numbers have. -/
def withoutSuffix (w : Wanted) (text : String) : String :=
  if !w.suffix.isEmpty && w.suffix.length < text.length && text.endsWith w.suffix then
    String.ofList (text.toList.take (text.length - w.suffix.length))
  else text

/-- Converts a field, and tells whether that was possible. -/
def convert (w : Wanted) (field : Nat) (text : String) : Tool Bool := do
  let isNumber := match w.fields with
    | some spans => Range.contains spans field
    | none => field == 1
  if !isNumber then
    print text
    return true
  let text := withoutSuffix w text
  let bare := String.ofList (text.toList.dropWhile isBlank)
  let width :=
    if w.padding != 0 || w.delimiter.isSome then w.padding
    else if bare.length < text.length || 1 < field then text.length
    else 0
  match ← numberIn w bare with
  | none =>
    print text
    return false
  | some n =>
    let places := w.places.getD n.places
    if ← isTooLarge w n.value places then
      print text
      return false
    print (w.before ++ padded w width (shown w n.value places ++ w.suffix) ++ w.after)
    return true

/-- The first field of a line, and what follows its separator. -/
def nextField (w : Wanted) (line : List Char) : List Char × Option (List Char) :=
  let isEnd (c : Char) : Bool := match w.delimiter with
    | some d => c == d
    | none => isBlank c || c == '\n'
  let blanks := if w.delimiter.isSome then [] else line.takeWhile isEnd
  let (field, rest) := (line.drop blanks.length).span (!isEnd ·)
  (blanks ++ field, if rest.isEmpty then none else some (rest.drop 1))

/-- Converts the fields of a line from one on. -/
def convertFrom (w : Wanted) (field : Nat) (line : List Char) (ok : Bool) : Nat → Tool Bool
  | 0 => return ok
  | fuel + 1 => do
    let (text, rest) := nextField w line
    let isFine ← convert w field (String.ofList text)
    match rest with
    | none => return ok && isFine
    | some rest => do
      print (String.ofList [w.delimiter.getD ' '])
      convertFrom w (field + 1) rest (ok && isFine) fuel

/-- Converts a line, up to a zero in it. -/
def convertLine (w : Wanted) (line : String) (isEnded : Bool) : Tool Bool := do
  let cs := line.toList.takeWhile (· != '\x00')
  let ok ← convertFrom w 1 cs true (cs.length + 1)
  if isEnded then put ⟨#[w.stop]⟩
  return ok

/-- Converts the lines of the input. -/
def convertInput (w : Wanted) : Tool Bool := do
  let (bytes, failure) ← Tool.readWhole 0
  let (lines, isEnded) := linesOf w.stop bytes
  let mut ok := true
  for h : i in [0:lines.size] do
    let text := ByteText.ofBytes lines[i]
    let ended := isEnded || i + 1 < lines.size
    if i < w.header then
      let isCut := text.toList.contains '\x00'
      print (String.ofList (text.toList.takeWhile (· != '\x00')))
      if ended && !isCut then put ⟨#[w.stop]⟩
    else
      let fine ← convertLine w text ended
      ok := ok && fine
  if let some e := failure then warnOf "error reading input" e
  return ok

/-! ## Options -/

/-- A number of units. A letter alone stands for a power of 1000, and for one of 1024 with an `i`. -/
def unitOf (text : String) : Tool Nat := do
  let cs := text.toList
  let (cs, suffixes) : List Char × String := match cs.reverse with
    | [] => (cs, "KMGTPEZY")
    | last :: before =>
      if last.isDigit then (cs, "KMGTPEZY")
      else if last == 'i' && (before.head?.map (!·.isDigit)).getD false then (before.reverse, "KMGTPEZY")
      else (cs ++ ['B'], "KMGTPEZY0")
  match Amount.read false suffixes (String.ofList cs) with
  | .ok n => if n == 0 then fail 1 ("invalid unit size: " ++ quote text) else return n.toNat
  | .error _ => fail 1 ("invalid unit size: " ++ quote text)

def setPadding (w : Wanted) (text : String) : Tool Wanted := do
  match Amount.read true "" text with
  | .ok n =>
    if n == 0 || n < -(2 ^ 63 - 1) then fail 1 ("invalid padding value " ++ quote text)
    return { w with padding := n.natAbs, alignsLeft := w.alignsLeft || n < 0 }
  | .error _ => fail 1 ("invalid padding value " ++ quote text)

def setFields (w : Wanted) (text : String) : Tool Wanted := do
  if w.fields.isSome then fail 1 "multiple field specifications"
  if text == "-" then return { w with fields := some [(1, none)] }
  return { w with fields := some (← Range.parse Range.ofFields [] text.toList (text.length + 1)) }

def setHeader (w : Wanted) (text : Option String) : Tool Wanted :=
  match text with
  | none => return { w with header := 1 }
  | some text => match Amount.read false "" text with
    | .ok n =>
      if n == 0 then fail 1 ("invalid header value " ++ quote text)
      else return { w with header := n.toNat }
    | .error _ => fail 1 ("invalid header value " ++ quote text)

def addOption (w : Wanted) (given : Given) : Tool Wanted := do
  let text := given.2.getD ""
  let scales : List (String × Scale) := [("none", .none), ("auto", .auto), ("si", .si), ("iec", .iec),
    ("iec-i", .iecI)]
  match given.1 with
  | "from" => return { w with source := ← choose "--from" scales text }
  | "to" => return { w with target := ← choose "--to" (scales.filter (·.1 != "auto")) text }
  | "from-unit" => return { w with sourceUnit := ← unitOf text }
  | "to-unit" => return { w with targetUnit := ← unitOf text }
  | "round" =>
    let choices : List (String × Rounding) := [("up", .up), ("down", .down), ("from-zero", .fromZero),
      ("towards-zero", .towardsZero), ("nearest", .nearest)]
    return { w with rounding := ← choose "--round" choices text }
  | "grouping" => return { w with isGrouped := true }
  | "padding" => setPadding w text
  | "field" => setFields w text
  | "d" =>
    if 1 < text.length then fail 1 "the delimiter must be a single character"
    return { w with delimiter := some (text.toList.headD '\x00') }
  | "z" => return { w with stop := 0 }
  | "suffix" => return { w with suffix := text }
  | "debug" => return { w with isTalkative := true }
  | "header" => setHeader w given.2
  | "format" => return { w with format := some text }
  | _ =>
    let choices : List (String × Refusal) := [("abort", .abort), ("fail", .fail), ("warn", .warn),
      ("ignore", .ignore)]
    return { w with refusal := ← choose "--invalid" choices text }

/-- How many characters in front of a directive count, doubled percent signs as one, and what stands
from the directive on. -/
def toDirective (count : Nat) : List Char → Nat × List Char
  | '%' :: '%' :: cs => toDirective (count + 1) cs
  | '%' :: cs => (count, cs)
  | _ :: cs => toDirective (count + 1) cs
  | [] => (count, [])

/-- Whether another directive follows. -/
def hasDirective : List Char → Bool
  | '%' :: '%' :: cs => hasDirective cs
  | '%' :: _ => true
  | _ :: cs => hasDirective cs
  | [] => false

/-- Passes flags: whether digits are grouped and whether zeros fill up. -/
def flagsOf (grouped zeros : Bool) : List Char → Bool × Bool × List Char
  | ' ' :: cs => flagsOf grouped zeros cs
  | '\'' :: cs => flagsOf true zeros cs
  | '0' :: cs => flagsOf grouped true cs
  | cs => (grouped, zeros, cs)

/-- Reads a format, which is said once more where it is wrong. -/
def setFormat (w : Wanted) (format : String) : Tool Wanted := do
  let cs := format.toList
  let (count, rest) := toDirective 0 cs
  let shown := "format " ++ quote format
  let isMissing := !hasDirective cs
  if isMissing then fail 1 (shown ++ " has no % directive")
  let (grouped, zeros, rest) := flagsOf w.isGrouped false rest
  let (n, far, after) := Integer.read 10 rest
  if Integer.signedFar n far || n < -(2 ^ 63 - 1) then
    fail 1 ("invalid " ++ shown ++ " (width overflow)")
  let w := { w with isGrouped := grouped }
  let w ← if n == 0 then pure w else do
    if w.isTalkative && w.padding != 0 && !(zeros && 0 < n) then
      warn "--format padding overriding --padding"
    pure (if n < 0 then { w with alignsLeft := true, padding := n.natAbs }
      else if zeros then { w with zeroWidth := n.toNat }
      else { w with padding := n.toNat })
  if after.isEmpty then fail 1 (shown ++ " ends in %")
  let (w, rest) ← match after with
    | '.' :: rest =>
      let (n, far, after) := Integer.read 10 rest
      if Integer.signedFar n far || n < 0 || (rest.head?.map fun c => isBlank c || c == '+').getD false then
        fail 1 ("invalid precision in " ++ shown)
      pure ({ w with places := some n.toNat }, after)
    | _ => pure (w, after)
  match rest with
  | 'f' :: rest =>
    if hasDirective rest then fail 1 (shown ++ " has too many % directives")
    return { w with before := String.ofList (cs.take count), after := String.ofList rest }
  | _ => fail 1 ("invalid " ++ shown ++ ", directive must be %[0]['][-][N][.][N]f")

def switches : List Switch := [⟨"from", "from", .required⟩, ⟨"from-unit", "from-unit", .required⟩,
  ⟨"to", "to", .required⟩, ⟨"to-unit", "to-unit", .required⟩, ⟨"round", "round", .required⟩,
  ⟨"padding", "padding", .required⟩, ⟨"suffix", "suffix", .required⟩, ⟨"grouping", "grouping", .none⟩,
  .letter 'd' "delimiter" .required, ⟨"field", "field", .required⟩, ⟨"debug", "debug", .none⟩,
  ⟨"debug", "-debug", .none⟩, ⟨"header", "header", .optional⟩, ⟨"format", "format", .required⟩,
  ⟨"invalid", "invalid", .required⟩, .letter 'z' "zero-terminated" .none]

/-- Options that say something together. -/
def settle (w : Wanted) : Tool Wanted := do
  if w.format.isSome && w.isGrouped then fail 1 "--grouping cannot be combined with --format"
  if w.isTalkative && w.source = .none && w.target = .none && !w.isGrouped && w.padding == 0 &&
      w.format.isNone then
    warn "no conversion option specified"
  let w ← match w.format with
    | some format => setFormat w format
    | none => pure w
  if w.isGrouped then
    if w.target != .none then fail 1 "grouping cannot be combined with --to"
    if w.isTalkative then warn "grouping has no effect in this locale"
  return w

end Scaling

open Scaling in
def numfmt (call : Call) : Tool Nat := do
  let (p, w) ← parseInto switches false 1 call.operands {} addOption
  let w ← settle w
  let ok ← if p.operands.isEmpty then convertInput w else do
    if w.isTalkative && w.header != 0 then warn "--header ignored with command-line input"
    p.operands.foldlM (fun ok text => return (← convertLine w text true) && ok) true
  if w.isTalkative && !ok then warn "failed to convert some of the input numbers"
  return if !ok && (w.refusal = .abort || w.refusal = .fail) then 2 else 0

end PipeShell.Host.Tool
