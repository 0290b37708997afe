import PipeShell.Host.Number.Conversion
import PipeShell.Host.Tool.Amount
import PipeShell.Host.Tool.Options
import PipeShell.Host.Tool.Regular

/-! # The tool `csplit`

An input is cut at lines that are told by their number or by an expression that matches in them. Each
section becomes a file, and all of them are removed again if something goes wrong. -/

namespace PipeShell.Host.Tool

namespace Sections

/-- Where a section ends. -/
inductive Goal where
  /-- Before a line; each time it is repeated before one so many lines later. -/
  | line (number : Nat)
  /-- So many lines from the next one that matches. What is passed on the way may be left out. -/
  | found (r : Regular) (offset : Int) (isSkipped : Bool)

/-- A goal, as it was written, and how often it is to be reached besides the first time; nothing if
that is for as long as there is input. -/
structure Step where
  goal : Goal
  word : String
  repeats : Option Nat := some 0

/-- How sections are called. -/
inductive Suffix where
  | digits (count : Nat)
  /-- A number between two texts. -/
  | shown (before : String) (c : Number.Conversion) (letter : Char) (after : String)

structure Wanted where
  stem : String := "xx"
  suffix : Suffix := .digits 2
  keeps : Bool := false
  isQuiet : Bool := false
  omitsEmpty : Bool := false
  /-- Whether the lines that sections end at are left out. -/
  omitsMatched : Bool := false

structure State where
  wanted : Wanted
  /-- The lines of the input, with what ends them. -/
  lines : Array ByteArray
  failure : Option Errno
  /-- The number of the first line that is left. -/
  first : Nat := 1
  /-- The number of the line that was looked at last. -/
  current : Nat := 0
  /-- How many files have been made. -/
  made : Nat := 0
  /-- The file that is being written and what it will hold. -/
  pending : Option (Nat × ByteArray) := none

abbrev Cutting := StateT State Tool

def do_ {α : Type} (t : Tool α) : Cutting α := StateT.lift t

/-! ## Files -/

def Suffix.text (i : Nat) : Suffix → String
  | .digits count => ({ zeros := true, width := count : Number.Conversion }).signed i
  | .shown before c letter after =>
    before ++ (if letter == 'd' then c.signed i else c.unsigned letter i) ++ after

def nameOf (w : Wanted) (i : Nat) : String := w.stem ++ w.suffix.text i

/-- Removes a file, and tells whether that was possible. -/
def remove (name : String) : Tool Bool := do
  match ← changeFiles fun fs cwd => fs.removeFile cwd name with
  | .ok () => return true
  | .error e =>
    if e != .notFound then warnOf (quoteName name) e
    return false

/-- Ends the file that is being written. -/
def finish : Cutting Unit := do
  let s ← get
  match s.pending with
  | none => return ()
  | some (fd, bytes) =>
    set { s with pending := none }
    let _ ← do_ (act (Act.write fd bytes))
    do_ (act (Act.close fd))
    if bytes.isEmpty && s.wanted.omitsEmpty then
      if ← do_ (remove (nameOf s.wanted (s.made - 1))) then modify fun s => { s with made := s.made - 1 }
    else if !s.wanted.isQuiet then do_ (print (toString bytes.size ++ "\n"))

/-- Ends the tool; files that were made are removed. -/
def giveUp {α : Type} : Cutting α := do
  finish
  let s ← get
  if !s.wanted.keeps then
    for i in (List.range s.made).reverse do
      let _ ← do_ (remove (nameOf s.wanted i))
  do_ (throw 1)

def begin_ : Cutting Unit := do
  let s ← get
  let name := nameOf s.wanted s.made
  match ← do_ (act (Act.openFile name { write := true, create := some 0o666, truncate := true })) with
  | .ok fd => set { s with made := s.made + 1, pending := some (fd, .empty) }
  | .error e =>
    do_ (warnOf (quoteName name) e)
    giveUp

def save (line : ByteArray) : Cutting Unit :=
  modify fun s => { s with pending := s.pending.map fun (fd, bytes) => (fd, bytes ++ line) }

/-! ## Lines -/

/-- Makes sure that the input could be read. -/
def needInput : Cutting Unit := do
  if let some e := (← get).failure then
    do_ (warnOf "read error" e)
    giveUp

def lineAt? (number : Nat) : Cutting (Option ByteArray) := do
  needInput
  return (← get).lines[number - 1]?

/-- Takes the first line that is left. -/
def takeLine : Cutting (Option ByteArray) := do
  needInput
  let s ← get
  match s.lines[s.first - 1]? with
  | none => return none
  | some line =>
    set { s with first := s.first + 1, current := max s.current s.first }
    return some line

def isAtEnd : Cutting Bool := do return (← lineAt? ((← get).current + 1)).isNone

/-- The number of the first line that is left. -/
def firstLine : Cutting Nat := do
  needInput
  let s ← get
  if s.lines.size < s.first then do_ (fail 1 "input disappeared")
  return s.first

/-- Takes so many lines, and tells whether there were enough. -/
def takeLines (isSkipped : Bool) : Nat → Cutting Bool
  | 0 => return true
  | n + 1 => do
    match ← takeLine with
    | none => return false
    | some line =>
      if !isSkipped then save line
      takeLines isSkipped n

/-- Saves all lines that are left. -/
def saveRest : Cutting Unit := do
  let s ← get
  needInput
  let _ ← takeLines false (s.lines.size + 1 - s.first)

/-! ## Sections -/

/-- What is said of the times that a goal is repeated. -/
def timesText (repetition : Nat) : String :=
  if repetition == 0 then "\n" else " on repetition " ++ toString repetition ++ "\n"

/-- Ends the tool because a line cannot be reached. -/
def refuseLine {α : Type} (shown : String) (repetition : Nat) : Cutting α := do
  do_ flush
  do_ (note ((← do_ get).name ++ ": " ++ quote shown ++ ": line number out of range" ++ timesText repetition))
  giveUp

def goToLine (number repetition : Nat) : Cutting Unit := do
  let w := (← get).wanted
  begin_
  if w.omitsMatched && (← isAtEnd) then refuseLine (toString number) repetition
  let first ← firstLine
  if !(← takeLines false (number * (repetition + 1) - first)) then refuseLine (toString number) repetition
  finish
  if w.omitsMatched then
    let _ ← takeLine
  else if ← isAtEnd then refuseLine (toString number) repetition

/-- Looks for the next line that matches. Lines that do not are passed on the way if they may be. The
number bounds how many lines are looked at. -/
def search (r : Regular) (passes isSkipped : Bool) : Nat → Cutting Bool
  | 0 => return false
  | fuel + 1 => do
    modify fun s => { s with current := s.current + 1 }
    match ← lineAt? (← get).current with
    | none => return false
    | some line =>
      let cs := (ByteText.ofBytes line).toList
      let cs := if cs.getLast? == some '\n' then cs.dropLast else cs
      if r.occursIn cs.toArray then return true
      if passes then
        let _ ← takeLines isSkipped 1
      search r passes isSkipped fuel

/-- Goes to the next line that matches. Whether there is none though that is no mistake is the
answer. -/
def goToMatch (step : Step) (r : Regular) (offset : Int) (isSkipped : Bool) (repetition : Nat) :
    Cutting Bool := do
  if !isSkipped then begin_
  let s ← get
  if !(← search r (0 ≤ offset) isSkipped (s.lines.size + 2)) then
    let rest : Cutting Unit := do
      if !isSkipped then
        saveRest
        finish
    if step.repeats.isNone then
      rest
      return true
    do_ flush
    do_ (note ((← do_ get).name ++ ": " ++ quote step.word ++ ": match not found" ++ timesText repetition))
    rest
    giveUp
  let first ← firstLine
  let last : Int := (← get).current + offset
  let isReached ← if last < first then pure false else takeLines isSkipped (last - first).toNat
  if !isReached then
    do_ (warn (quote step.word ++ ": line number out of range"))
    giveUp
  if !isSkipped then finish
  if 0 < offset then modify fun s => { s with current := last.toNat }
  if s.wanted.omitsMatched then
    let _ ← takeLine
  return false

/-- Reaches a goal as often as is wanted, and tells whether the input is over. -/
def reach (step : Step) (repetition : Nat) : Nat → Cutting Bool
  | 0 => return false
  | fuel + 1 => do
    let isOver ← match step.goal with
      | .line number => do
        goToLine number repetition
        pure false
      | .found r offset isSkipped => goToMatch step r offset isSkipped repetition
    if isOver then return true
    else if step.repeats.all (repetition + 1 ≤ ·) then reach step (repetition + 1) fuel
    else return false

def reachAll : List Step → Cutting Unit
  | [] => do
    begin_
    saveRest
    finish
  | step :: rest => do
    if !(← reach step 0 Act.manyReads) then reachAll rest

/-! ## Reading steps -/

/-- Reads how often a step is repeated. -/
def repeatsOf (word : String) : Tool (Option Nat) := do
  let inner := (word.toList.drop 1).dropLast
  if word.toList.getLast? != some '\x7d' then
    fail 1 (quote word ++ ": '\x7d' is required in repeat count")
  if inner == ['*'] then return none
  let given := String.ofList ('\x7b' :: inner)
  match Amount.read false "" (String.ofList inner) with
  | .ok n =>
    if n < 2 ^ 63 then return some n.toNat
    else fail 1 (quote given ++ "\x7d: integer required between '\x7b' and '\x7d'")
  | .error _ => fail 1 (quote given ++ "\x7d: integer required between '\x7b' and '\x7d'")

/-- The text between two signs, the last one as far behind as can be, and what is behind that. -/
def delimited? (sign : Char) (cs : List Char) : Option (List Char × List Char) :=
  let behind := cs.reverse.takeWhile (· != sign)
  if behind.length == cs.length then none
  else some (cs.take (cs.length - behind.length - 1), behind.reverse)

def goalOf (word : String) : Tool Goal := do
  match word.toList with
  | sign :: cs =>
    if sign == '/' || sign == '%' then
      match delimited? sign cs with
      | none => fail 1 (word ++ ": closing delimiter '" ++ String.ofList [sign] ++ "' missing")
      | some (inner, behind) =>
        let r ← match Regular.ofString? .basic (String.ofList inner) with
          | .ok (r, _) => pure r
          | .error m => fail 1 (quote word ++ ": invalid regular expression: " ++ m.message)
        let offset ← if behind.isEmpty then pure 0 else
          match Amount.read true "" (String.ofList behind) with
          | .ok n => pure n
          | .error _ => fail 1 (quote word ++ ": integer expected after delimiter")
        return .found r offset (sign == '%')
    else number
  | [] => number
where
  number : Tool Goal := match Amount.read false "" word with
    | .ok n =>
      if 2 ^ 63 ≤ n then fail 1 (quote word ++ ": invalid pattern")
      else if n == 0 then fail 1 (word ++ ": line number must be greater than zero")
      else return .line n.toNat
    | .error _ => fail 1 (quote word ++ ": invalid pattern")

/-- Checks that numbers of lines are in order. -/
def checkOrder (last : Nat) (goal : Goal) (word : String) : Tool Nat := do
  match goal with
  | .found .. => return last
  | .line n =>
    if n < last then
      fail 1 ("line number " ++ quote word ++ " is smaller than preceding line number, " ++ toString last)
    if n == last then
      warn ("warning: line number " ++ quote word ++ " is the same as preceding line number")
    return n

/-- Takes the counts of repetitions to the words that they stand behind. -/
def withCounts : List String → List (String × Option String)
  | word :: count :: rest =>
    if count.startsWith "\x7b" then (word, some count) :: withCounts rest
    else (word, none) :: withCounts (count :: rest)
  | [word] => [(word, none)]
  | [] => []

def stepsOf (words : List String) : Tool (List Step) := do
  let mut last := 0
  let mut steps : Array Step := #[]
  for (word, count) in withCounts words do
    let goal ← goalOf word
    last ← checkOrder last goal word
    let repeats ← match count with
      | some text => repeatsOf text
      | none => pure (some 0)
    steps := steps.push { goal, word, repeats }
  return steps.toList

/-! ## Names -/

/-- The text up to a conversion, with doubled percent signs as one. -/
def literal (taken : List Char) : List Char → List Char × List Char
  | '%' :: '%' :: cs => literal ('%' :: taken) cs
  | '%' :: cs => (taken.reverse, '%' :: cs)
  | c :: cs => literal (c :: taken) cs
  | [] => (taken.reverse, [])

/-- Reads the format of a suffix. -/
def suffixOf (format : String) : Tool Suffix := do
  let (before, rest) := literal [] format.toList
  match rest with
  | [] => fail 1 "missing % conversion specification in suffix"
  | _ :: rest =>
    let flags := rest.takeWhile ("-0'#".toList.contains ·)
    let rest := rest.drop flags.length
    let width := rest.takeWhile Char.isDigit
    let rest := rest.drop width.length
    let number (ds : List Char) : Nat := (String.ofList ds).toNat?.getD 0
    let (precision, rest) := match rest with
      | '.' :: more =>
        let ds := more.takeWhile Char.isDigit
        (some (number ds), more.drop ds.length)
      | rest => (none, rest)
    match rest with
    | [] => fail 1 "missing conversion specifier in suffix"
    | letter :: rest =>
      if !"diuoxX".toList.contains letter then
        fail 1 ("invalid conversion specifier in suffix: " ++
          (if isPrintable letter then String.ofList [letter] else octal letter))
      let isPlain := "diu".toList.contains letter
      let bad := if isPlain then '#' else '\''
      if flags.contains bad then
        fail 1 ("invalid flags in conversion specification: %" ++ String.ofList [bad, letter])
      let (after, rest) := literal [] rest
      if !rest.isEmpty then fail 1 "too many % conversion specifications in suffix"
      let c : Number.Conversion := {
        left := flags.contains '-', zeros := flags.contains '0', alternate := flags.contains '#'
        width := number width, precision }
      return .shown (String.ofList before) c (if isPlain then 'd' else letter) (String.ofList after)

/-- Takes the number of digits of names from an option, if it gives one. -/
def addDigits (digits : Nat) (given : Given) : Tool Nat := do
  if given.1 != "n" then return digits
  return (← amountWithin true "" 0 (2 ^ 31 - 1) "invalid number" (given.2.getD "")).toNat

def wantedOf (p : Parsed) (digits : Nat) : Wanted :=
  { stem := (p.last? "f").getD "xx", suffix := .digits digits, keeps := p.has "k"
    isQuiet := p.hasAny ["s", "q"], omitsEmpty := p.has "z", omitsMatched := p.has "suppress-matched" }

/-- The lines of bytes, with what ends them. -/
def wholeLines (bytes : ByteArray) : Array ByteArray :=
  let (lines, isEnded) := linesOf 10 bytes
  lines.mapIdx fun i line => if isEnded || i + 1 < lines.size then line.push 10 else line

end Sections

open Sections in
def csplit (call : Call) : Tool Nat := do
  let (p, digits) ← parseInto [.letter 'f' "prefix" .required, .letter 'b' "suffix-format" .required,
    .letter 'k' "keep-files" .none, .letter 'n' "digits" .required, .letter 's' "silent" .none,
    .letter 'q' "quiet" .none, .letter 'z' "elide-empty-files" .none,
    ⟨"suppress-matched", "suppress-matched", .none⟩] false 1 call.operands 2 addDigits
  let w := wantedOf p digits
  match p.operands with
  | [] => missingOperand 1
  | [_] => missingAfter 1 (call.operands.getLast?.getD "")
  | input :: words =>
    let w ← match p.last? "b" with
      | some format => pure { w with suffix := ← suffixOf format }
      | none => pure w
    match ← openOperand input with
    | .error e => fail 1 ("cannot open " ++ shellQuoted input ++ " for reading: " ++ e.message)
    | .ok fd =>
      let steps ← stepsOf words
      let (bytes, failure) ← readWhole fd
      let ((), _) ← (reachAll steps).run { wanted := w, lines := wholeLines bytes, failure }
      return 0

end PipeShell.Host.Tool
