import PipeShell.Host.Tool.Amount
import PipeShell.Host.Tool.Collation
import PipeShell.Host.Tool.Options

/-! # The tool `join`

The lines of two inputs are put together where they have a field in common. Both are in the order of
that field, so one pass is enough. -/

namespace PipeShell.Host.Tool

namespace Joining

/-- A line and its fields. -/
structure Line where
  text : ByteArray := .empty
  fields : Array ByteArray := #[]

/-- What a column of the output shows. -/
inductive Column where
  /-- The field that two lines have in common. -/
  | common
  | field (ofSecond : Bool) (index : Nat)
  deriving DecidableEq, Repr

inductive OrderCheck where
  | always | never
  /-- Once a line has found no partner. -/
  | ifUnpaired
  deriving DecidableEq, Repr

structure Wanted where
  showsPairs : Bool := true
  filler : Option String := none
  ignoresCase : Bool := false
  separator : Option UInt8 := none
  columns : Array Column := #[]
  /-- Whether all lines show as many fields as the first one. -/
  isEven : Bool := false
  checks : OrderCheck := .ifUnpaired
  hasHeader : Bool := false
  stop : UInt8 := 10

/-- One of the two inputs. -/
structure Side where
  name : String
  input : LineInput
  /-- The field that is compared. -/
  key : Nat
  showsUnpaired : Bool
  /-- How many fields the first line has. -/
  width : Nat := 0
  /-- How many lines have been taken. -/
  count : Nat := 0
  last : Option Line := none
  /-- Whether a line has been found that is not in order. -/
  warned : Bool := false

def isBlank (b : UInt8) : Bool := b == 32 || b == 9 || b == 10

/-- The words between blanks; blanks at the end leave an empty one. -/
def wordsIn (bytes : List UInt8) : Nat → List (List UInt8)
  | 0 => []
  | fuel + 1 =>
    let (word, rest) := bytes.span (!isBlank ·)
    if rest.isEmpty then [word] else word :: wordsIn (rest.dropWhile isBlank) fuel

def fieldsOf (separator : Option UInt8) (text : ByteArray) : Array ByteArray :=
  let bytes := text.toList
  let found : List (List UInt8) := match separator with
    | some 10 => [bytes]
    | some c => bytes.splitOn c
    | none => match bytes.dropWhile isBlank with
      | [] => []
      | b :: rest => match wordsIn rest (rest.length + 1) with
        | word :: words => if isBlank b then word :: words else (b :: word) :: words
        | [] => [[b]]
  if text.isEmpty then #[] else (found.map fun field => (⟨field.toArray⟩ : ByteArray)).toArray

def fieldAt (line : Line) (index : Nat) : ByteArray := line.fields.getD index .empty

def upper (bytes : ByteArray) : ByteArray :=
  ⟨bytes.data.map fun b => if 97 ≤ b && b ≤ 122 then b - 32 else b⟩

/-- The order of two fields. -/
def compareFields (w : Wanted) (a b : ByteArray) : Ordering :=
  if w.ignoresCase then Collation.bytes (upper a) (upper b) else Collation.bytes a b

def compareLines (w : Wanted) (a b : Side) (x y : Line) : Ordering :=
  compareFields w (fieldAt x a.key) (fieldAt y b.key)

/-! ## Input -/

/-- Complains about a line that is before the one in front of it. -/
def complain (w : Wanted) (side : Side) (line : Line) : Tool Unit := do
  let text := side.name ++ ":" ++ toString side.count ++ ": is not sorted: " ++ ByteText.ofBytes line.text
  if w.checks = .always then fail 1 text else warn text

/-- Takes the next line of a side and checks that it is in order. -/
def advance (w : Wanted) (unpaired : Bool) (side : Side) : Tool (Option Line × Side) := do
  let (taken, input) ← side.input.next w.stop Act.manyReads
  if let some e := input.failure then fail 1 ("read error: " ++ e.message)
  match taken with
  | none => return (none, { side with input })
  | some text =>
    let line : Line := ⟨text, fieldsOf w.separator text⟩
    let isChecked := w.checks = .always || (w.checks = .ifUnpaired && unpaired)
    let isBad := match side.last with
      | some before => compareLines w side side before line == .gt
      | none => false
    let side := { side with input, count := side.count + 1, last := some line }
    if isChecked && isBad && !side.warned then
      complain w side line
      return (some line, { side with warned := true })
    return (some line, side)

/-! ## Output -/

def shownField (w : Wanted) (line : Line) (index : Nat) : ByteArray :=
  let field := fieldAt line index
  if field.isEmpty then ByteText.toBytes (w.filler.getD "") else field

/-- The fields of a side but for the one that is compared. -/
def otherFields (w : Wanted) (side : Side) (line : Line) : List ByteArray :=
  let width := if w.isEven then side.width else line.fields.size
  ((List.range width).filter (· != side.key)).map (shownField w line)

/-- An output line. A side that has no line shows empty fields. -/
def joined (w : Wanted) (a b : Side) (x y : Option Line) : ByteArray :=
  let first := x.getD {}
  let second := y.getD {}
  let common := if x.isSome then shownField w first a.key else shownField w second b.key
  let fields : List ByteArray :=
    if w.columns.isEmpty then common :: (otherFields w a first ++ otherFields w b second)
    else w.columns.toList.map fun
      | .common => common
      | .field false i => shownField w first i
      | .field true i => shownField w second i
  let between := w.separator.getD 32
  let out : ByteArray := match fields with
    | [] => .empty
    | field :: rest => rest.foldl (fun out f => out.push between ++ f) field
  out.push w.stop

/-! ## Joining -/

/-- Takes lines of a side for as long as they agree with one of the other side: the lines, and the one
behind them. -/
def group (w : Wanted) (unpaired : Bool) (agrees : Line → Bool) (side : Side) (lines : Array Line) :
    Nat → Tool (Array Line × Option Line × Side)
  | 0 => return (lines, none, side)
  | fuel + 1 => do
    match ← advance w unpaired side with
    | (none, side) => return (lines, none, side)
    | (some line, side) =>
      if agrees line then group w unpaired agrees side (lines.push line) fuel
      else return (lines, some line, side)

/-- Goes through both sides until one is at its end: the sides, the lines they are at, and whether one
has found no partner. -/
def merge (w : Wanted) (a b : Side) (x y : Option Line) (unpaired : Bool) :
    Nat → Tool (Side × Side × Option Line × Option Line × Bool)
  | 0 => return (a, b, x, y, unpaired)
  | fuel + 1 => do
    match x, y with
    | some first, some second =>
      match compareLines w a b first second with
      | .lt => do
        if a.showsUnpaired then put (joined w a b x none)
        let (x, a) ← advance w unpaired a
        merge w a b x y true fuel
      | .gt => do
        if b.showsUnpaired then put (joined w a b none y)
        let (y, b) ← advance w unpaired b
        merge w a b x y true fuel
      | .eq => do
        let (xs, x, a) ← group w unpaired (fun line => compareLines w a b line second == .eq) a
          #[first] Act.manyReads
        let (ys, y, b) ← group w unpaired (fun line => compareLines w a b first line == .eq) b
          #[second] Act.manyReads
        if w.showsPairs then
          for p in xs do
            for q in ys do put (joined w a b (some p) (some q))
        merge w a b x y unpaired fuel
    | _, _ => return (a, b, x, y, unpaired)

/-- Goes on with a side alone, whose lines are shown or only checked. -/
def finish (w : Wanted) (unpaired : Bool) (shown : Line → ByteArray) (side : Side) : Nat → Tool Side
  | 0 => return side
  | fuel + 1 => do
    match ← advance w unpaired side with
    | (none, side) => return side
    | (some line, side) =>
      if side.showsUnpaired then
        put (shown line)
        finish w unpaired shown side fuel
      else if side.warned then return side
      else finish w unpaired shown side fuel

/-- Joins two inputs, and tells whether both are in order. -/
def join (w : Wanted) (a b : Side) : Tool Bool := do
  let (x, a) ← advance w false a
  let (y, b) ← advance w false b
  let widthOf (line : Option Line) : Nat := (line.map (·.fields.size)).getD 0
  let a := { a with width := widthOf x }
  let b := { b with width := widthOf y }
  let ((x, a), (y, b)) ← if !w.hasHeader || (x.isNone && y.isNone) then pure ((x, a), (y, b)) else do
    put (joined w a b x y)
    let a := { a with last := none }
    let b := { b with last := none }
    let first ← if x.isSome then advance w false a else pure (x, a)
    let second ← if y.isSome then advance w false b else pure (y, b)
    pure (first, second)
  let (a, b, x, y, unpaired) ← merge w a b x y false Act.manyReads
  let checksRest := w.checks != .never && !(a.warned && b.warned)
  let a ← match x with
    | none => pure a
    | some line => do
      if a.showsUnpaired then put (joined w a b x none)
      if a.showsUnpaired || checksRest then
        finish w unpaired (fun line => joined w a b (some line) none) { a with last := some line }
          Act.manyReads
      else pure a
  let b ← match y with
    | none => pure b
    | some line => do
      if b.showsUnpaired then put (joined w a b none y)
      if b.showsUnpaired || checksRest then
        finish w unpaired (fun line => joined w a b none (some line)) { b with last := some line }
          Act.manyReads
      else pure b
  return !a.warned && !b.warned

/-! ## Options -/

/-- What an operand may be instead of a file: the argument of the option in front of it. -/
inductive Role where
  | file | firstKey | secondKey | column
  deriving DecidableEq, Repr

/-- What has been said so far. -/
structure Said where
  wanted : Wanted := {}
  unpaired : Bool × Bool := (false, false)
  keys : Option Nat × Option Nat := (none, none)
  names : List (String × Role) := []
  /-- How many key options still have no argument, for each side. -/
  open_ : Nat × Nat := (0, 0)
  /-- What an operand may be that comes next. -/
  next : Role := .file

def fieldNumber (text : String) : Tool Nat := do
  match Amount.read false "" text with
  | .ok n => if n == 0 then fail 1 ("invalid field number: " ++ quote text) else return n.toNat - 1
  | .error .tooLarge => return 2 ^ 64 - 2
  | .error _ => fail 1 ("invalid field number: " ++ quote text)

/-- The field to compare, which may be said twice but not in two ways. -/
def newKey (old : Option Nat) (new : Nat) : Tool (Option Nat) := do
  if let some n := old then
    if n != new then
      fail 1 ("incompatible join fields " ++ toString n ++ ", " ++ toString new)
  return some new

def columnOf (text : String) : Tool Column :=
  match text.toList with
  | ['0'] => return .common
  | '1' :: '.' :: cs => return .field false (← fieldNumber (String.ofList cs))
  | '2' :: '.' :: cs => return .field true (← fieldNumber (String.ofList cs))
  | '0' :: _ | '1' :: _ | '2' :: _ => fail 1 ("invalid field specifier: " ++ quote text)
  | _ => fail 1 ("invalid file number in field spec: " ++ quote text)

def addColumns (s : Said) (text : String) : Tool Said := do
  let mut columns := s.wanted.columns
  for word in text.toList.splitOnP (fun c => c == ',' || c == ' ' || c == '\t') do
    columns := columns.push (← columnOf (String.ofList word))
  return { s with wanted := { s.wanted with columns } }

def setFirst (s : Said) (key : Nat) : Tool Said := do
  return { s with keys := (← newKey s.keys.1 key, s.keys.2) }

def setSecond (s : Said) (key : Nat) : Tool Said := do
  return { s with keys := (s.keys.1, ← newKey s.keys.2 key) }

/-- Adds an operand. If there are too many, an earlier one was an option's argument. -/
def addName (s : Said) (name : String) : Tool Said := do
  let s ← match s.names with
    | [a, b] =>
      let (taken, kept) := if a.2 = .file then (b, a) else (a, b)
      let s := { s with names := [kept] }
      match taken.2 with
      | .file => do
        warn ("extra operand " ++ shellQuoted name)
        tryHelp 1
      | .firstKey => setFirst { s with open_ := (s.open_.1 - 1, s.open_.2) } (← fieldNumber taken.1)
      | .secondKey => setSecond { s with open_ := (s.open_.1, s.open_.2 - 1) } (← fieldNumber taken.1)
      | .column => addColumns s taken.1
    | _ => pure s
  return { s with
    names := s.names ++ [(name, s.next)]
    next := if s.next = .column then .column else .file }

def separatorOf (text : String) : Tool UInt8 :=
  match text.toList with
  | [] => return 10
  | [c] => return UInt8.ofNat c.toNat
  | ['\\', '0'] => return 0
  | _ => fail 1 ("multi-character tab " ++ quote text)

/-- Adds an option. `isAlone` tells whether a word of the call has this option and its argument. -/
def addOption (isAlone : String → Bool) (s : Said) (given : Given) : Tool Said := do
  let text := given.2.getD ""
  let role := s.next
  let s := { s with next := .file }
  let w := s.wanted
  match given.1 with
  | "" => addName { s with next := role } text
  | "a" | "v" =>
    let s := if given.1 == "v" then { s with wanted := { w with showsPairs := false } } else s
    match Amount.read false "" text with
    | .ok 1 => return { s with unpaired := (true, s.unpaired.2) }
    | .ok 2 => return { s with unpaired := (s.unpaired.1, true) }
    | _ => fail 1 ("invalid field number: " ++ quote text)
  | "e" =>
    if w.filler.any (· != text) then fail 1 "conflicting empty-field replacement strings"
    return { s with wanted := { w with filler := some text } }
  | "i" => return { s with wanted := { w with ignoresCase := true } }
  | "1" => setFirst s (← fieldNumber text)
  | "2" => setSecond s (← fieldNumber text)
  | "j" =>
    if text == "1" && isAlone "-j1" then
      return { s with open_ := (s.open_.1 + 1, s.open_.2), next := .firstKey }
    if text == "2" && isAlone "-j2" then
      return { s with open_ := (s.open_.1, s.open_.2 + 1), next := .secondKey }
    let key ← fieldNumber text
    setSecond (← setFirst s key) key
  | "o" =>
    if text == "auto" then return { s with wanted := { w with isEven := true } }
    return { (← addColumns s text) with next := .column }
  | "t" =>
    let c ← separatorOf text
    if w.separator.any (· != c) then fail 1 "incompatible tabs"
    return { s with wanted := { w with separator := some c } }
  | "z" => return { s with wanted := { w with stop := 0 } }
  | "check-order" => return { s with wanted := { w with checks := .always } }
  | "nocheck-order" => return { s with wanted := { w with checks := .never } }
  | _ => return { s with wanted := { w with hasHeader := true } }

def switches : List Switch := [.operand, .letter 'a' "" .required, .letter 'e' "" .required,
  .letter 'i' "ignore-case" .none, .letter '1' "" .required, .letter '2' "" .required,
  .letter 'j' "" .required, .letter 'o' "" .required, .letter 't' "" .required,
  .letter 'v' "" .required, .letter 'z' "zero-terminated" .none,
  ⟨"check-order", "check-order", .none⟩, ⟨"nocheck-order", "nocheck-order", .none⟩,
  ⟨"header", "header", .none⟩]

/-- An option that has no argument of its own gives the number in it to both sides. -/
def closeKeys (s : Said) : Tool Said := do
  let s ← if s.open_.1 == 0 then pure s else setSecond (← setFirst s 0) 0
  if s.open_.2 == 0 then return s else setSecond (← setFirst s 1) 1

def open_ (name : String) : Tool Nat := do
  match ← openOperand name with
  | .ok fd => return fd
  | .error e => fail 1 (quoteName name ++ ": " ++ e.message)

end Joining

open Joining in
def join (call : Call) : Tool Nat := do
  let (p, s) ← parseInto switches false 1 call.operands {} (addOption call.operands.contains)
  let s ← p.operands.foldlM addName { s with next := .file }
  match s.names with
  | [(first, _), (second, _)] =>
    let s ← closeKeys s
    let input ← open_ first
    let other ← open_ second
    if input == other then fail 1 "both files cannot be standard input"
    let a : Side := {
      name := first, input := { fd := input }, key := s.keys.1.getD 0, showsUnpaired := s.unpaired.1 }
    let b : Side := {
      name := second, input := { fd := other }, key := s.keys.2.getD 0, showsUnpaired := s.unpaired.2 }
    if ← Joining.join s.wanted a b then return 0
    fail 1 "input is not in sorted order"
  | [] => missingOperand 1
  | _ => missingAfter 1 (call.operands.getLast?.getD "")

end PipeShell.Host.Tool
