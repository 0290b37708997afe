import PipeShell.Host.Tool.Amount
import PipeShell.Host.Tool.Collation
import PipeShell.Host.Tool.Concatenate

/-! # The tools `uniq` and `comm`

Lines of one input that are alike and stand together, and lines of two ordered inputs. -/

namespace PipeShell.Host.Tool

/-! ## `uniq` -/

/-- What lines are compared by. -/
structure Likeness where
  skippedFields : Nat := 0
  skippedBytes : Nat := 0
  /-- How many bytes are compared, if not all. -/
  compared : Option Nat := none
  ignoresCase : Bool := false

namespace Likeness

def isBlank (b : UInt8) : Bool := b == 32 || b == 9 || b == 10

/-- Where a line is compared from. -/
def start (l : Likeness) (line : ByteArray) : Nat :=
  let skip (p : UInt8 → Bool) (i : Nat) : Nat := (line.findIdx? (!p ·) i).getD line.size
  let i := l.skippedFields.fold (fun _ _ i => skip (!isBlank ·) (skip isBlank i)) 0
  min line.size (i + l.skippedBytes)

def upper (b : UInt8) : UInt8 := if 97 ≤ b && b ≤ 122 then b - 32 else b

def key (l : Likeness) (line : ByteArray) : ByteArray :=
  let start := l.start line
  let stop := match l.compared with
    | some n => start + n
    | none => line.size
  let part := line.extract start stop
  if l.ignoresCase then part.foldl (fun out b => out.push (upper b)) .empty else part

end Likeness

/-- Where empty lines stand between groups. -/
inductive Grouping where
  | none | before | after | both | between
  deriving DecidableEq, Repr, BEq

/-- What is shown of the runs of lines that are alike. -/
structure Runs where
  likeness : Likeness := {}
  counts : Bool := false
  showsSingle : Bool := true
  showsRepeated : Bool := true
  /-- Whether all lines of a repeated run are shown, and what stands between runs. -/
  all : Option Grouping := none
  /-- Whether all lines are shown, and what stands between runs. -/
  groups : Option Grouping := none
  stop : UInt8 := 10

namespace Runs

/-- A run on the way. -/
structure State where
  first : ByteArray := .empty
  key : ByteArray := .empty
  /-- How many lines the run has; zero before the first line. -/
  count : Nat := 0
  /-- Whether a run has been shown. -/
  shown : Bool := false

/-- Ends a run. -/
def finish (r : Runs) (s : State) (out : ByteArray) : State × ByteArray :=
  if s.count == 0 || r.all.isSome || r.groups.isSome then (s, out)
  else if (if s.count == 1 then r.showsSingle else r.showsRepeated) then
    let number := if r.counts then (rightAligned 7 (toString s.count) ++ " ").toUTF8 else .empty
    (s, (out ++ number ++ s.first).push r.stop)
  else (s, out)

/-- Takes one line. -/
def step (r : Runs) (s : State) (out line : ByteArray) : State × ByteArray :=
  let key := r.likeness.key line
  if s.count != 0 && key == s.key then
    let out := match r.all with
      | some g =>
        let out := if s.count == 1 then
            let out := if g == .before || (g == .between && s.shown) then out.push r.stop else out
            (out ++ s.first).push r.stop
          else out
        (out ++ line).push r.stop
      | none => if r.groups.isSome then (out ++ line).push r.stop else out
    ({ s with count := s.count + 1, shown := s.shown || r.all.isSome }, out)
  else
    let (s, out) := r.finish s out
    let isFirst := s.count == 0
    let out := match r.groups with
      | some g =>
        let gap := if isFirst then g == .before || g == .both else true
        ((if gap then out.push r.stop else out) ++ line).push r.stop
      | none => out
    ({ s with first := line, key, count := 1 }, out)

/-- What comes at the end. -/
def last (r : Runs) (s : State) : ByteArray :=
  let (_, out) := r.finish s .empty
  if s.count != 0 && (r.groups == some .after || r.groups == some .both) then out.push r.stop
  else out

def allWords : List (String × Grouping) := [("none", .none), ("prepend", .before), ("separate", .between)]

def groupWords : List (String × Grouping) :=
  [("prepend", .before), ("append", .after), ("separate", .between), ("both", .both)]

def switches : List Switch := [
  .letter 'c' "count" .none, .letter 'd' "repeated" .none, .letter 'D' "" .none,
  ⟨"all", "all-repeated", .optional⟩, .letter 'f' "skip-fields" .required, ⟨"group", "group", .optional⟩,
  .letter 'i' "ignore-case" .none, .letter 's' "skip-chars" .required, .letter 'u' "unique" .none,
  .letter 'w' "check-chars" .required, .letter 'z' "zero-terminated" .none] ++
  Switch.ofLetters "0123456789"

/-- A number that an option tells; one too large counts as the largest. -/
def number (what : String) (text : String) : Tool Nat :=
  match Amount.read false "" text with
  | .ok n => return n.toNat
  | .error .tooLarge => return 2 ^ 64 - 1
  | .error _ => fail 1 (text ++ ": " ++ what)

def addOption (r : Runs) : Given → Tool Runs
  | ("c", _) => return { r with counts := true }
  | ("d", _) => return { r with showsSingle := false }
  | ("u", _) => return { r with showsRepeated := false }
  | ("i", _) => return { r with likeness := { r.likeness with ignoresCase := true } }
  | ("z", _) => return { r with stop := 0 }
  | ("D", _) => return { r with showsSingle := false, all := some .none }
  | ("all", word) => do
    let g ← match word with
      | some word => choose "--all-repeated" allWords word
      | none => pure .none
    return { r with showsSingle := false, all := some g }
  | ("group", word) => do
    let g ← match word with
      | some word => choose "--group" groupWords word
      | none => pure .between
    return { r with groups := some g }
  | ("f", n) => do
    let n ← number "invalid number of fields to skip" (n.getD "")
    return { r with likeness := { r.likeness with skippedFields := n } }
  | ("s", n) => do
    let n ← number "invalid number of bytes to skip" (n.getD "")
    return { r with likeness := { r.likeness with skippedBytes := n } }
  | ("w", n) => do
    let n ← number "invalid number of bytes to compare" (n.getD "")
    return { r with likeness := { r.likeness with compared := some n } }
  | (digit, _) => do
    let fields := r.likeness.skippedFields * 10 + (digit.toNat?).getD 0
    return { r with likeness := { r.likeness with skippedFields := fields } }

/-- Whether an operand says the old way how many bytes are skipped. -/
def isOldCount (word : String) : Bool :=
  match word.toList with
  | '+' :: c :: cs => (c :: cs).all Char.isDigit
  | _ => false

end Runs

open Runs in
def uniq (call : Call) : Tool Nat := do
  let (p, r) ← parseInto switches false 1 call.operands {} addOption
  let (counts, operands) := if plusIsName call.environment then ([], p.operands)
    else p.operands.partition isOldCount
  let r := match counts.getLast?.bind fun word => (String.ofList (word.toList.drop 1)).toNat? with
    | some n => { r with likeness := { r.likeness with skippedBytes := n } }
    | none => r
  let (source, target) ← match operands with
    | [] => pure ("-", "-")
    | [source] => pure (source, "-")
    | [source, target] => pure (source, target)
    | _ :: _ :: extra :: _ => extraOperand 1 extra
  if r.groups.isSome && (r.counts || !r.showsSingle || !r.showsRepeated) then
    misuse 1 "--group is mutually exclusive with -c/-d/-D/-u"
  if r.all.isSome && r.counts then
    misuse 1 "printing all duplicated lines and repeat counts is meaningless"
  match ← openOperand source with
  | .error e => fail 1 (quoteName source ++ ": " ++ e.message)
  | .ok fd =>
    if target != "-" then
      match ← act (Act.openFile target { write := true, create := some 0o666, truncate := true }) with
      | .error e => fail 1 (quoteName target ++ ": " ++ e.message)
      | .ok fd =>
        let _ ← act (Act.call (World.duplicate fd 1))
    let (s, failure) ← forLines fd r.stop
      (fun (s : Runs.State) out line _ => r.step s out line) {}
    match failure with
    | some e => fail 1 ("error reading " ++ shellQuoted source ++ ": " ++ e.message)
    | none =>
      put (r.last s)
      return 0

/-! ## `comm` -/

namespace Common

structure Wanted where
  /-- Whether each column is shown. -/
  columns : List Bool
  separator : ByteArray
  stop : UInt8
  /-- Whether order is checked: always, never, or if it matters. -/
  checks : Option Bool

/-- The text in front of a line in a column. -/
def indent (w : Wanted) (column : Nat) : ByteArray :=
  ((w.columns.take column).filter id).foldl (fun out _ => out ++ w.separator) .empty

def showsColumn (w : Wanted) (column : Nat) : Bool := (w.columns[column]?).getD false

/-- The lines that have not been taken. Two inputs that are the same one share them. -/
structure Sources where
  left : List ByteArray
  right : List ByteArray
  isShared : Bool

/-- Takes the next line of a side. -/
def Sources.take (s : Sources) (isLeft : Bool) : Option ByteArray × Sources :=
  if isLeft || s.isShared then (s.left.head?, { s with left := s.left.drop 1 })
  else (s.right.head?, { s with right := s.right.drop 1 })

/-- One of the two inputs: the line that is compared, and the one before it. -/
structure Side where
  current : Option ByteArray
  former : Option ByteArray := none
  /-- Whether a complaint has been made. -/
  warned : Bool := false

/-- Steps to the next line of a side, and checks that it is not before the one that is left. After the
last line the two last ones are looked at once more. -/
def advance (w : Wanted) (isLeft unpaired : Bool) (s : Side) (sources : Sources) : Tool (Side × Sources) := do
  let (next, sources) := sources.take isLeft
  let isAfter (a b : Option ByteArray) : Bool :=
    match a, b with
    | some a, some b => Collation.bytes a b == .gt
    | _, _ => false
  let isBad := if next.isSome then isAfter s.current next else isAfter s.former s.current
  let isTold := isBad && (w.checks == some true || (w.checks.isNone && unpaired)) && !s.warned
  if isTold then
    let text := "file " ++ (if isLeft then "1" else "2") ++ " is not in sorted order"
    if w.checks == some true then fail 1 text
    warn text
  return ({ current := next, former := s.current, warned := s.warned || isTold }, sources)

/-- Compares the sides line by line. `unpaired` tells whether a line has stood alone. The number
bounds how many lines there are. -/
def compare (w : Wanted) (a b : Side) (sources : Sources) (totals : Nat × Nat × Nat) (unpaired : Bool) :
    Nat → Tool ((Nat × Nat × Nat) × Bool)
  | 0 => return (totals, a.warned || b.warned)
  | fuel + 1 => do
    let display (column : Nat) (line : ByteArray) : Tool Unit := do
      if showsColumn w column then put ((indent w column ++ line).push w.stop)
    let (m, n, k) := totals
    let order : Option (Ordering × ByteArray) := match a.current, b.current with
      | none, none => none
      | some x, none => some (.lt, x)
      | none, some y => some (.gt, y)
      | some x, some y => match Collation.bytes x y with
        | .lt => some (.lt, x)
        | order => some (order, y)
    match order with
    | none => return (totals, a.warned || b.warned)
    | some (.eq, line) =>
      display 2 line
      let (a, sources) ← advance w true unpaired a sources
      let (b, sources) ← advance w false unpaired b sources
      compare w a b sources (m, n, k + 1) unpaired fuel
    | some (.lt, line) =>
      display 0 line
      let (a, sources) ← advance w true true a sources
      compare w a b sources (m + 1, n, k) true fuel
    | some (.gt, line) =>
      display 1 line
      let (b, sources) ← advance w false true b sources
      compare w a b sources (m, n + 1, k) true fuel

end Common

open Common in
def comm (call : Call) : Tool Nat := do
  let add (separator : Option String) (given : Given) : Tool (Option String) := do
    if given.1 != "output-delimiter" then return separator
    if separator.any (some · != given.2) then fail 1 "multiple output delimiters specified"
    return given.2
  let (p, separator) ← parseInto (Switch.ofLetters "123" ++ [.letter 'z' "zero-terminated" .none,
    ⟨"check-order", "check-order", .none⟩, ⟨"nocheck-order", "nocheck-order", .none⟩,
    ⟨"output-delimiter", "output-delimiter", .required⟩, ⟨"total", "total", .none⟩]) false 1 call.operands none add
  match p.operands with
  | [] => missingOperand 1
  | [name] => missingAfter 1 name
  | _ :: _ :: extra :: _ => extraOperand 1 extra
  | [left, right] =>
    let separator := separator.getD "\t"
    let w : Wanted := {
      columns := ["1", "2", "3"].map fun key => !p.has key
      separator := ByteText.toBytes (if separator.isEmpty then "\x00" else separator)
      stop := if p.has "z" then 0 else 10
      checks := (p.lastOf? ["check-order", "nocheck-order"]).map (· == "check-order") }
    let linesIn (name : String) : Tool (List ByteArray) := do
      match ← openOperand name with
      | .error e => fail 1 (quoteName name ++ ": " ++ e.message)
      | .ok fd =>
        let (bytes, failure) ← readWhole fd
        if let some e := failure then fail 1 (quoteName name ++ ": " ++ e.message)
        return (linesOf w.stop bytes).1.toList
    let isShared := left == "-" && right == "-"
    let sources : Sources := { left := ← linesIn left, right := ← linesIn right, isShared }
    let fuel := sources.left.length + sources.right.length + 1
    let (first, sources) := sources.take true
    let (second, sources) := sources.take false
    let ((m, n, k), warned) ← compare w { current := first } { current := second } sources (0, 0, 0) false fuel
    -- An input that both sides share cannot be left twice.
    if isShared then fail 1 (left ++ ": " ++ Errno.badDescriptor.message)
    if p.has "total" then
      let totals := separator.intercalate [toString m, toString n, toString k, "total"]
      put ((ByteText.toBytes totals).push w.stop)
    if warned then fail 1 "input is not in sorted order"
    return 0

end PipeShell.Host.Tool
