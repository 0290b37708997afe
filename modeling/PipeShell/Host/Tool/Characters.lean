import PipeShell.Host.Tool.Amount
import PipeShell.Host.Tool.Options

/-! # The tool `tr`

Bytes are replaced by others, deleted, or left once for each run. Sets of bytes are written as
strings with ranges, classes and repetitions. -/

namespace PipeShell.Host.Tool

namespace Characters

/-! ## Sets as they are written -/

inductive Case where
  | upper | lower
  deriving DecidableEq, Repr

inductive Element where
  | byte (b : UInt8)
  | range (first last : UInt8)
  | cls (name : String)
  | equivalents (b : UInt8)
  /-- A byte so many times; zero times means as often as is needed. -/
  | times (b : UInt8) (count : Nat)
  deriving DecidableEq, Repr

/-- A character and whether it was written with a backslash. -/
abbrev Mark := Char × Bool

def digitAt (cs : List Char) (i : Nat) : Option Nat :=
  (cs[i]?).bind fun c => if '0' ≤ c && c ≤ '7' then some (c.toNat - '0'.toNat) else none

/-- The octal digits behind a backslash: the byte that they make and how many they are. Three that
make no byte are taken as two and a character of its own. -/
def octal (cs : List Char) : Option (Nat × Nat × Bool) :=
  match digitAt cs 0, digitAt cs 1, digitAt cs 2 with
  | none, _, _ => none
  | some a, none, _ => some (a, 1, false)
  | some a, some b, none => some (8 * a + b, 2, false)
  | some a, some b, some c =>
    let n := 64 * a + 8 * b + c
    if n < 256 then some (n, 3, false) else some (8 * a + b, 2, true)

def escapes : List (Char × Nat) := [('a', 7), ('b', 8), ('f', 12), ('n', 10), ('r', 13), ('t', 9), ('v', 11)]

/-- Replaces backslashes by what they stand for. -/
def unescape (marks : List Mark) : List Char → Nat → Tool (List Mark)
  | _, 0 | [], _ => return marks.reverse
  | ['\\'], _ => do
    warn "warning: an unescaped backslash at end of string is not portable"
    return (('\\', false) :: marks).reverse
  | '\\' :: c :: cs, fuel + 1 =>
    match octal (c :: cs) with
    | some (n, size, isAmbiguous) => do
      if isAmbiguous then
        let ds := String.ofList ((c :: cs).take 3)
        let two := String.ofList ((c :: cs).take 2)
        let third := String.ofList (((c :: cs).drop 2).take 1)
        warn ("warning: the ambiguous octal escape \\" ++ ds ++
          " is being\n\tinterpreted as the 2-byte sequence \\0" ++ two ++ ", " ++ third)
      unescape ((Char.ofNat n, true) :: marks) ((c :: cs).drop size) fuel
    | none =>
      let c := match escapes.lookup c with
        | some n => Char.ofNat n
        | none => c
      unescape ((c, true) :: marks) cs fuel
  | c :: cs, fuel + 1 => unescape ((c, false) :: marks) cs fuel

def byteOf (m : Mark) : UInt8 := UInt8.ofNat m.1.toNat

def isMark (c : Char) : Option Mark → Bool
  | some (d, escaped) => d == c && !escaped
  | none => false

/-- A text in a message. -/
def printable (ms : List Mark) : String :=
  String.join (ms.map fun (c, _) =>
    if c == '\\' then "\\\\" else if isPrintable c then String.ofList [c] else escaped c)

/-- What stands in front of a character and a bracket, and what follows these. -/
def closing (c : Char) (taken : List Mark) : List Mark → Option (List Mark × List Mark)
  | (d, false) :: (']', false) :: rest =>
    if d == c then some (taken.reverse, rest)
    else closing c ((d, false) :: taken) ((']', false) :: rest)
  | m :: rest => closing c (m :: taken) rest
  | [] => none

/-- A star, digits and a bracket. -/
def isRepeat (ms : List Mark) : Bool :=
  match ms with
  | ('*', false) :: rest => isMark ']' (rest.dropWhile fun (c, _) => c.isDigit).head?
  | _ => false

/-- What stands behind the star of a repetition, up to the bracket, and what follows it. -/
def repeatCount? : List Mark → Option (List Mark × List Mark)
  | (']', false) :: rest => some ([], rest)
  | (c, false) :: rest => (repeatCount? rest).map fun (ms, rest) => ((c, false) :: ms, rest)
  | _ => none

def classNames : List String := ["alnum", "alpha", "blank", "cntrl", "digit", "graph", "lower", "print",
  "punct", "space", "upper", "xdigit"]

def inClass (name : String) (b : UInt8) : Bool :=
  let c := Char.ofNat b.toNat
  let isGraph : Bool := 33 ≤ b && b < 127
  match name with
  | "alnum" => b < 128 && c.isAlphanum
  | "alpha" => b < 128 && c.isAlpha
  | "blank" => b == 32 || b == 9
  | "cntrl" => b < 32 || b == 127
  | "digit" => c.isDigit
  | "graph" => isGraph
  | "lower" => 97 ≤ b && b ≤ 122
  | "print" => 32 ≤ b && b < 127
  | "punct" => isGraph && !c.isAlphanum
  | "space" => b == 32 || (9 ≤ b && b ≤ 13)
  | "upper" => 65 ≤ b && b ≤ 90
  | _ => c.isDigit || (97 ≤ b && b ≤ 102) || (65 ≤ b && b ≤ 70)

/-- Reads a bracket with a colon or an equals sign behind it, if that is closed. -/
def named (ms : List Mark) : Tool (Option (Element × List Mark)) := do
  match ms with
  | (sign, false) :: rest =>
    if sign != ':' && sign != '=' then return none
    match closing sign [] rest with
    | none => return none
    | some (name, after) =>
      if name.isEmpty then
        fail 1 (if sign == ':' then "missing character class name '[::]'"
          else "missing equivalence class character '[==]'")
      let text := String.ofList (name.map (·.1))
      if sign == ':' then
        if classNames.contains text then return some (.cls text, after)
        if isRepeat rest then return none
        fail 1 ("invalid character class " ++ quote (printable name))
      match name with
      | [m] => return some (.equivalents (byteOf m), after)
      | _ =>
        if isRepeat rest then return none
        fail 1 (printable name ++ ": equivalence class operand must be a single character")
  | _ => return none

/-- Reads a character with a star and perhaps a count behind it, up to a bracket. -/
def repetition (ms : List Mark) : Tool (Option (Element × List Mark)) := do
  match ms with
  | m :: ('*', false) :: rest => match repeatCount? rest with
    | none => return none
    | some ([], after) => return some (.times (byteOf m) 0, after)
    | some (count, after) =>
      let bad : Tool (Option (Element × List Mark)) :=
        fail 1 ("invalid repeat count " ++ quote (printable count) ++ " in [c*n] construct")
      let digits := count.map (·.1)
      let base := if digits.head? == some '0' then 8 else 10
      match Number.Integer.read base digits with
      | (n, far, []) =>
        if far || digits.head? == some '-' then bad else return some (.times (byteOf m) n.toNat, after)
      | _ => bad
  | _ => return none

/-- Reads a set. -/
def elements (done : List Element) (ms : List Mark) : Nat → Tool (List Element)
  | 0 => return done.reverse
  | fuel + 1 => do
    match ms with
    | a :: b :: c :: rest =>
      let bracket : Option (Element × List Mark) ← if isMark '[' (some a) then do
          match ← named (b :: c :: rest) with
          | some found => pure (some found)
          | none => repetition (b :: c :: rest)
        else pure none
      match bracket with
      | some (e, after) => elements (e :: done) after fuel
      | none =>
        if isMark '-' (some b) then
          if byteOf c < byteOf a then
            fail 1 ("range-endpoints of " ++ "'" ++ printable [a] ++ "-" ++ printable [c] ++
              "' are in reverse collating sequence order")
          elements (.range (byteOf a) (byteOf c) :: done) rest fuel
        else elements (.byte (byteOf a) :: done) (b :: c :: rest) fuel
    | rest => return done.reverse ++ rest.map fun m => .byte (byteOf m)

def readSet (text : String) : Tool (List Element) := do
  let ms ← unescape [] text.toList (text.length + 1)
  elements [] ms (ms.length + 1)

/-! ## Sets -/

def allBytes : List UInt8 := (List.range 256).map UInt8.ofNat

namespace Element

def bytes : Element → List UInt8
  | byte b => [b]
  | range first last => allBytes.filter fun b => first ≤ b && b ≤ last
  | cls name => allBytes.filter (inClass name)
  | equivalents b => [b]
  | times b count => List.replicate count b

def case? : Element → Option Case
  | cls "upper" => some .upper
  | cls "lower" => some .lower
  | _ => none

def isClass : Element → Bool
  | cls _ => true
  | _ => false

def isOpen : Element → Bool
  | times _ 0 => true
  | _ => false

end Element

def size (set : List Element) : Nat := set.foldl (fun n e => n + e.bytes.length) 0

def members (set : List Element) : List UInt8 := set.flatMap Element.bytes

/-- The bytes of a set as a table. -/
def tableOf (bytes : List UInt8) : Array Bool :=
  bytes.foldl (fun (table : Array Bool) b => table.setIfInBounds b.toNat true) (Array.replicate 256 false)

def holds (table : Array Bool) (b : UInt8) : Bool := (table[b.toNat]?).getD false

/-- An element on the way: the bytes that are left of it. -/
structure Chunk where
  bytes : List UInt8
  case : Option Case
  isNew : Bool := true

def chunks (set : List Element) : List Chunk :=
  (set.map fun e => { bytes := e.bytes, case := e.case? : Chunk }).filter (!·.bytes.isEmpty)

/-- The next byte, the element it belongs to, what follows the byte and what follows the element. -/
def next? : List Chunk → Option (UInt8 × Chunk × List Chunk × List Chunk)
  | [] => none
  | chunk :: rest => match chunk.bytes with
    | [] => none
    | [b] => some (b, chunk, rest, rest)
    | b :: bytes => some (b, chunk, { chunk with bytes, isNew := false } :: rest, rest)

/-- How many pairs of cases there are if each of the second set stands where the first one has a
case, too. -/
def alignedCases (a b : List Chunk) (pairs : Nat) : Nat → Option Nat
  | 0 => some pairs
  | fuel + 1 => match next? a, next? b with
    | first, some (_, d, bRest, bSkip) =>
      let starts : Bool := match first with
        | some (_, c, _, _) => c.isNew && c.case.isSome
        | none => false
      if d.case.isSome && d.isNew && !starts then none
      else match first with
        | none => some pairs
        | some (_, _, aRest, aSkip) =>
          if d.case.isSome then alignedCases aSkip bSkip (pairs + 1) fuel
          else alignedCases aRest bRest pairs fuel
    | _, none => some pairs

def lowered (b : UInt8) : UInt8 := if inClass "upper" b then b + 32 else b

def raised (b : UInt8) : UInt8 := if inClass "lower" b then b - 32 else b

/-- What each byte becomes. -/
def translation (a b : List Chunk) (table : Array UInt8) : Nat → Array UInt8
  | 0 => table
  | fuel + 1 => match next? a, next? b with
    | some (x, c, aRest, aSkip), some (y, d, bRest, bSkip) =>
      let table := match c.case, d.case with
        | some .lower, some .upper => table.mapIdx fun i t => if inClass "lower" (UInt8.ofNat i) then raised (UInt8.ofNat i) else t
        | some .upper, some .lower => table.mapIdx fun i t => if inClass "upper" (UInt8.ofNat i) then lowered (UInt8.ofNat i) else t
        | _, _ => table.setIfInBounds x.toNat y
      if d.case.isSome then translation aSkip bSkip table fuel
      else translation aRest bRest table fuel
    | _, _ => table

/-! ## What is asked for -/

structure Wanted where
  complements : Bool
  truncates : Bool
  translates : Bool

/-- The second set with its open repetition filled up. -/
def filledUp (needed : Nat) (set : List Element) : List Element :=
  let missing := needed - size set
  set.flatMap fun e => match e with
    | .times b 0 => if missing == 0 then [] else [.times b missing]
    | e => [e]

/-- Checks two sets, and makes the second as long as it has to be. -/
def checked (w : Wanted) (a b : List Element) : Tool (List Element) := do
  let opens := (b.filter Element.isOpen).length
  if 1 < opens then fail 1 "only one [c*] repeat construct may appear in string2"
  if !w.translates then
    if 0 < opens then fail 1 "the [c*] construct may appear in string2 only when translating"
    return b
  let needed := if w.complements then (allBytes.filter (!(members a).contains ·)).length else size a
  let b := filledUp needed b
  if b.any fun e => match e with | .equivalents _ => true | _ => false then
    fail 1 "[=c=] expressions may not appear in string2 when translating"
  if b.any fun e => e.isClass && e.case?.isNone then
    fail 1 "when translating, the only character classes that may appear in\nstring2 are 'upper' and 'lower'"
  let pairs ← if w.complements || !b.any Element.isClass then pure 0
    else match alignedCases (chunks a) (chunks b) 0 (size a + size b + 2) with
      | some pairs => pure pairs
      | none => fail 1 "misaligned [:upper:] and/or [:lower:] construct"
  let firstSize := needed - 25 * pairs
  let secondSize := size b - 25 * pairs
  let b ← if secondSize < firstSize && !w.truncates then
      match b.getLast? with
      | none => fail 1 "when not truncating set1, string2 must be non-empty"
      | some last =>
        if last.isClass then
          fail 1 "when translating with string1 longer than string2,\nthe latter string must not end with a character class"
        match last.bytes.getLast? with
        | some byte => pure (b ++ [.times byte (firstSize - secondSize)])
        | none => fail 1 "when not truncating set1, string2 must be non-empty"
    else pure b
  if w.complements && a.any Element.isClass then
    let bytes := members b
    if bytes.length != needed || !(bytes.all fun c => some c == bytes.head?) then
      fail 1 "when translating with complemented character classes,\nstring2 must map all characters in the domain to one"
  return b

/-- What each byte becomes that is not in a set. -/
def complementTranslation (a : Array Bool) (bytes : List UInt8) : Array UInt8 :=
  let others := allBytes.filter (!holds a ·)
  (others.zip bytes).foldl (fun table (x, y) => table.setIfInBounds x.toNat y) allBytes.toArray

/-- What is done to each byte, in this order. -/
structure Filter where
  deletes : Option (Array Bool) := none
  table : Option (Array UInt8) := none
  squeezes : Option (Array Bool) := none

def Filter.step (f : Filter) (state : Option UInt8 × ByteArray) (b : UInt8) : Option UInt8 × ByteArray :=
  let (last, out) := state
  if (f.deletes.map (holds · b)).getD false then state
  else
    let b := match f.table with
      | some table => (table[b.toNat]?).getD b
      | none => b
    if last == some b && (f.squeezes.map (holds · b)).getD false then state else (some b, out.push b)

end Characters

open Characters in
def tr (call : Call) : Tool Nat := do
  let p ← parse [.letter 'c' "complement" .none, .letter 'C' "" .none, .letter 'd' "delete" .none,
    .letter 's' "squeeze-repeats" .none, .letter 't' "truncate-set1" .none] true 1 call.operands
  let deletes := p.has "d"
  let squeezes := p.has "s"
  let least := if deletes == squeezes then 2 else 1
  let most := if deletes && !squeezes then 1 else 2
  if p.operands.length < least then
    match p.operands.getLast? with
    | none => missingOperand 1
    | some last =>
      warn ("missing operand after " ++ quote last)
      note (if squeezes then "Two strings must be given when both deleting and squeezing repeats.\n"
        else "Two strings must be given when translating.\n")
      tryHelp 1
  if most < p.operands.length then
    warn ("extra operand " ++ quote (p.operands.getD most ""))
    if p.operands.length == 2 then
      note "Only one string may be given when deleting without squeezing repeats.\n"
    tryHelp 1
  let w : Wanted := {
    complements := p.hasAny ["c", "C"], truncates := p.has "t"
    translates := !deletes && p.operands.length == 2 }
  let a ← readSet (p.operands.headD "")
  let second ← match p.operands with
    | [_, text] => do pure (some (← readSet text))
    | _ => pure none
  if a.any Element.isOpen then fail 1 "the [c*] repeat construct may not appear in string1"
  let second ← second.mapM (checked w a)
  let given := tableOf (members a)
  let first := if w.complements then given.map (!·) else given
  let filter : Filter := match second with
    | none => if deletes then { deletes := some first } else { squeezes := some first }
    | some b =>
      let squeezed := if squeezes then some (tableOf (members b)) else none
      if deletes then { deletes := some first, squeezes := squeezed }
      else
        let table :=
          if w.complements then complementTranslation given (members b)
          else translation (chunks a) (chunks b) allBytes.toArray (size a + size b + 2)
        { table := some table, squeezes := squeezed }
  let step (last : Option UInt8) (block : ByteArray) : Tool (Option UInt8 × Bool) := do
    let (last, out) := block.foldl filter.step (last, .empty)
    put out
    return (last, false)
  let (_, failure) ← forBlocks 0 8192 step none Act.manyReads
  match failure with
  | some e => fail 1 ("read error: " ++ e.message)
  | none => return 0

end PipeShell.Host.Tool
