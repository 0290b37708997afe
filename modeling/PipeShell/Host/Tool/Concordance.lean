import PipeShell.Host.Tool.Making
import PipeShell.Host.Tool.Regular

/-! # Words in their contexts

Each word of a text is shown in a line of its own with what stands in front of it and behind it. What
has no room on one side of a line is shown, as far as that is possible, on the other. -/

namespace PipeShell.Host.Tool
namespace Concordance

/-- What words are made of. -/
inductive WordForm where
  | letters (isIn : Char → Bool)
  | matching (r : Regular)

inductive Format where
  | plain | roff | tex
  deriving DecidableEq, BEq

structure Wanted where
  /-- Whether the wider meaning of words and lines holds, and not the traditional one. -/
  extends_ : Bool
  folds : Bool
  words : WordForm
  /-- What a context ends with, as it is written and as it is read; without it a text is one context. -/
  contextText : String
  contextEnd : Option Regular
  ignored : List String
  only : List String
  /-- Whether lines are referred to by file and number. -/
  numbers : Bool
  /-- Whether the first word of each line refers to it. -/
  labels : Bool
  referencesRight : Bool
  format : Format
  gap : Int
  width : Int
  /-- What marks a place where something is left out. -/
  truncation : String
  command : String

/-- Whether lines are referred to. -/
def Wanted.refers (w : Wanted) : Bool := w.numbers || w.labels

/-- A text, and how it looks where case plays no part. -/
structure Source where
  name : Option String
  text : Array Char
  folded : Array Char

def fold (folds : Bool) (c : Char) : Char := if folds then c.toUpper else c

def isSpace (c : Char) : Bool := Number.Floating.isSpace c

/-! ## Places in a text -/

/-- The next place from one on, below a limit, where a character is not as told. -/
def past (text : Array Char) (p : Char → Bool) (limit : Nat) (start : Nat) : Nat :=
  start + (((text.extract start limit).toList).takeWhile p).length

def pastSpace (text : Array Char) (limit start : Nat) : Nat := past text isSpace limit start

def pastWord (text : Array Char) (limit start : Nat) : Nat := past text (!isSpace ·) limit start

/-- The last place down to a start that has no blank in front of it. -/
def beforeSpace (text : Array Char) (start stop : Nat) : Nat :=
  stop - ((text.extract start stop).toList.reverse.takeWhile isSpace).length

/-- The first match in a part of a text. -/
def search (r : Regular) (text : Array Char) (start stop : Nat) : Option (Nat × Nat) :=
  let part := text.extract start stop
  (List.range (part.size + 1)).findSome? fun i =>
    (r.matchAt? part i).map fun place => (start + i, start + place.position)

/-- The place behind a word or behind a character that belongs to none. -/
def pastSome (w : Wanted) (s : Source) (limit start : Nat) : Nat :=
  match w.words with
  | .letters isIn => if (s.text[start]?).any isIn then past s.text isIn limit start else start + 1
  | .matching r => match r.matchAt? (s.folded.extract start limit) 0 with
    | some place => start + place.position
    | none => start + 1

/-- The next word in a part of a text. -/
def nextWord? (w : Wanted) (s : Source) (stop start : Nat) : Option (Nat × Nat) :=
  match w.words with
  | .letters isIn =>
    let first := past s.text (!isIn ·) stop start
    if stop ≤ first then none else some (first, past s.text isIn stop first)
  | .matching r => if stop < start then none else search r s.folded start stop

/-! ## Occurrences -/

structure Occurrence where
  file : Nat
  start : Nat
  stop : Nat
  contextStart : Nat
  contextStop : Nat
  /-- The number of its line, or where that begins. -/
  line : Nat
  deriving Inhabited

/-- What has been found so far. -/
structure Scan where
  found : Array Occurrence := #[]
  lines : Nat := 0
  widest : Nat := 0
  /-- The widest of the labels. -/
  widestLabel : Nat := 0
  lineStart : Nat := 0
  linePlace : Nat := 0
  labelWidth : Nat := 0

/-- Counts the lines in front of a place. The number bounds how many steps that takes. -/
def countLines (s : Source) (place : Nat) (scan : Scan) : Nat → Scan
  | 0 => scan
  | fuel + 1 =>
    if place ≤ scan.linePlace then scan
    else if s.text[scan.linePlace]? == some '\n' then
      let start := scan.linePlace + 1
      let next := pastWord s.text s.text.size start
      countLines s place { scan with
        lines := scan.lines + 1, lineStart := start, linePlace := next, labelWidth := next - start } fuel
    else countLines s place { scan with linePlace := scan.linePlace + 1 } fuel

/-- Compares words by their characters. -/
def compareChars (folds : Bool) : List Char → List Char → Ordering
  | [], [] => .eq
  | [], _ => .lt
  | _, [] => .gt
  | a :: as, b :: bs => match compare (fold folds a).toNat (fold folds b).toNat with
    | .eq => compareChars folds as bs
    | order => order

def isKept (w : Wanted) (word : List Char) : Bool :=
  let isIn (words : List String) : Bool := words.any fun o => compareChars w.folds word o.toList == .eq
  !isIn w.ignored && (w.only.isEmpty || isIn w.only)

/-- Finds the words of a context from a place on. The number bounds how many there are. -/
def findInContext (w : Wanted) (file : Nat) (s : Source) (contextStop : Nat) (contextStart cursor : Nat)
    (scan : Scan) : Nat → Scan
  | 0 => scan
  | fuel + 1 => match nextWord? w s contextStop cursor with
    | none => scan
    | some (start, stop) =>
      if start == stop then findInContext w file s contextStop contextStart (start + 1) scan fuel
      else
        let scan := { scan with widest := max scan.widest (stop - start) }
        let scan := if w.labels then countLines s start scan (s.text.size + 1) else scan
        let isLabel := w.labels && start < scan.linePlace
        if isLabel || !isKept w (s.text.extract start stop).toList then
          findInContext w file s contextStop contextStart stop scan fuel
        else
          let scan := if w.numbers then countLines s start scan (s.text.size + 1) else scan
          let scan := if w.labels && !w.numbers then
            { scan with widestLabel := max scan.widestLabel scan.labelWidth } else scan
          let contextStart := if w.labels && scan.lineStart == contextStart then
              pastSpace s.text contextStop (pastWord s.text contextStop contextStart)
            else contextStart
          let occurrence : Occurrence := {
            file, start, stop, contextStart, contextStop
            line := if w.numbers then scan.lines else scan.lineStart }
          findInContext w file s contextStop contextStart stop
            { scan with found := scan.found.push occurrence } fuel

/-- Finds the words of a text, context by context. A context may not begin with what ends
it. -/
def findInText (w : Wanted) (file : Nat) (s : Source) (cursor : Nat) (scan : Scan) :
    Nat → Except Unit Scan
  | 0 => .ok scan
  | fuel + 1 => do
    if s.text.size ≤ cursor then return scan
    let next ← match w.contextEnd with
      | none => pure s.text.size
      | some r => match search r s.folded cursor s.text.size with
        | none => pure s.text.size
        | some (start, stop) => if start == cursor then throw () else pure stop
    let stop := beforeSpace s.text cursor next
    let scan := findInContext w file s stop cursor cursor scan (s.text.size + 2)
    findInText w file s next scan fuel

/-- Finds the words of a text, and counts its lines. -/
def find (w : Wanted) (file : Nat) (s : Source) (scan : Scan) : Except Unit Scan := do
  let label := if w.labels then pastWord s.text s.text.size 0 else 0
  let place := if w.labels then pastSpace s.text s.text.size label else 0
  let scan := { scan with lineStart := 0, linePlace := place, labelWidth := label }
  let scan ← findInText w file s 0 scan (s.text.size + 1)
  return { scan with lines := scan.lines + 1 }

/-- Occurrences by their words, those of one word as they stand in the texts. -/
def sorted (w : Wanted) (sources : Array Source) (found : Array Occurrence) : List Occurrence :=
  let word (o : Occurrence) : List Char := match sources[o.file]? with
    | some s => (s.text.extract o.start o.stop).toList
    | none => []
  let keyed := found.toList.map fun o => (word o, o)
  (keyed.mergeSort fun (a, _) (b, _) => compareChars w.folds a b != .gt).map (·.2)

/-! ## Fields -/

/-- How many columns the parts of a line have. -/
structure Widths where
  reference : Int
  half : Int
  before : Int
  keyAfter : Int
  widest : Int

def widthsOf (w : Wanted) (reference widest : Int) : Widths :=
  let width := if w.refers && !w.referencesRight then max 0 (w.width - (reference + w.gap)) else w.width
  let half := width / 2
  let mark : Int := w.truncation.length
  if w.extends_ then
    { reference, half, before := max 0 (half - w.gap - 2 * mark), keyAfter := half - 2 * mark, widest }
  else { reference, half, before := half - w.gap, keyAfter := half - (2 * mark + 1), widest }

/-- A part of a text, and whether something is left out at its outer side. -/
structure Field where
  start : Nat := 0
  stop : Nat := 0
  isCut : Bool := false

namespace Field

def isEmpty (f : Field) : Bool := f.stop ≤ f.start

def width (f : Field) : Int := (f.stop : Int) - f.start

end Field

structure Fields where
  tail : Field
  before : Field
  keyAfter : Field
  head : Field

/-- Takes whole words and characters between, while they have room: from a place to a limit. The last
number bounds how many there are. -/
def takeRoom (w : Wanted) (s : Source) (limit : Nat) (fits : Nat → Bool) (stop cursor : Nat) : Nat → Nat × Nat
  | 0 => (stop, cursor)
  | fuel + 1 =>
    if cursor < limit && fits cursor then takeRoom w s limit fits cursor (pastSome w s limit cursor) fuel
    else (stop, cursor)

/-- Leaves out whole words and characters between, until the rest has room. -/
def dropUntil (w : Wanted) (s : Source) (limit : Nat) (room : Int) (cursor : Nat) : Nat → Nat
  | 0 => cursor
  | fuel + 1 =>
    if (cursor : Int) + room < limit then dropUntil w s limit room (pastSome w s limit cursor) fuel else cursor

def fieldsOf (w : Wanted) (widths : Widths) (s : Source) (o : Occurrence) : Fields :=
  let marks := !w.truncation.isEmpty
  let size := s.text.size
  let fuel := size + 2
  -- The word and what follows it.
  let fits (cursor : Nat) : Bool := (cursor : Int) ≤ o.start + widths.keyAfter
  let (stop, cursor) := takeRoom w s o.contextStop fits o.stop o.stop fuel
  let stop := if fits cursor then cursor else stop
  let isCut := marks && stop < o.contextStop
  let keyAfter : Field := { start := o.start, stop := beforeSpace s.text o.start stop, isCut }
  -- A long context is not gone through from its start.
  let far := (widths.half + widths.widest).toNat
  let first := if far < o.start - o.contextStart then pastSome w s o.start (o.start - far) else o.contextStart
  -- What is in front of the word.
  let stop := beforeSpace s.text first o.start
  let start := dropUntil w s stop widths.before first fuel
  let isCut := marks && o.contextStart < beforeSpace s.text 0 start
  let before : Field := { start := pastSpace s.text size start, stop, isCut }
  -- What has no room behind the word.
  let room := widths.before - before.width - w.gap
  let (tail, keyAfter) : Field × Field :=
    if room ≤ 0 then ({}, keyAfter)
    else
      let start := pastSpace s.text size keyAfter.stop
      let fits (cursor : Nat) : Bool := (cursor : Int) < start + room
      let (stop, cursor) := takeRoom w s o.contextStop fits start start fuel
      let stop := if fits cursor then cursor else stop
      let tail : Field := { start, stop := beforeSpace s.text start stop }
      if start < stop then ({ tail with isCut := marks && stop < o.contextStop }, { keyAfter with isCut := false })
      else (tail, keyAfter)
  -- What has no room in front of it.
  let room := widths.keyAfter - keyAfter.width - w.gap
  let (head, before) : Field × Field :=
    if room ≤ 0 then ({}, before)
    else
      let stop := beforeSpace s.text 0 before.start
      let start := dropUntil w s stop room first fuel
      let head : Field := { start := pastSpace s.text stop start, stop }
      if start < stop then
        ({ head with isCut := marks && o.contextStart < start }, { before with isCut := false })
      else (head, before)
  { tail, before, keyAfter, head }

/-! ## Output -/

/-- A character as a format shows it; blanks of every kind are one blank. -/
def shownChar (format : Format) (c : Char) : String :=
  if isSpace c then " "
  else match format with
    | .plain => c.toString
    | .roff => if c == '"' then "\"\"" else c.toString
    | .tex =>
      if "$%&#_".toList.contains c then "\\" ++ c.toString
      else if c == '{' || c == '}' then "$\\" ++ c.toString ++ "$"
      else if c == '\\' then "\\backslash\x7b\x7d"
      else c.toString

def shownText (w : Wanted) (cs : List Char) : String := String.join (cs.map (shownChar w.format))

def shownField (w : Wanted) (s : Source) (f : Field) : String :=
  shownText w (s.text.extract f.start f.stop).toList

def blanks (n : Int) : String := String.ofList (List.replicate n.toNat ' ')

def mark (w : Wanted) (f : Field) : String := if f.isCut then w.truncation else ""

def plainLine (w : Wanted) (widths : Widths) (s : Source) (f : Fields) (reference : String) : String :=
  let shown := shownField w s
  let cut (f : Field) : Int := (mark w f).length
  let label := shownText w reference.toList
  let front :=
    if w.referencesRight then ""
    else
      let gap := widths.reference + w.gap - reference.length
      label ++ (if w.numbers then ":" ++ blanks (gap - 1) else blanks gap)
  let left := widths.half - w.gap - f.before.width - cut f.before
  let tail :=
    if f.tail.isEmpty then blanks left
    else shown f.tail ++ mark w f.tail ++ blanks (left - f.tail.width - cut f.tail)
  let right := widths.half - f.keyAfter.width - cut f.keyAfter
  let behind := w.refers && w.referencesRight
  let head :=
    if !f.head.isEmpty then blanks (right - f.head.width - cut f.head) ++ mark w f.head ++ shown f.head
    else if behind then blanks right else ""
  front ++ tail ++ mark w f.before ++ shown f.before ++ blanks w.gap ++ shown f.keyAfter ++
    mark w f.keyAfter ++ head ++ (if behind then blanks w.gap ++ label else "")

def roffLine (w : Wanted) (s : Source) (f : Fields) (reference : String) : String :=
  let shown := shownField w s
  let quoted (text : String) : String := " \"" ++ text ++ "\""
  "." ++ w.command ++ quoted (shown f.tail ++ mark w f.tail) ++ quoted (mark w f.before ++ shown f.before) ++
    quoted (shown f.keyAfter ++ mark w f.keyAfter) ++ quoted (mark w f.head ++ shown f.head) ++
    (if w.refers then quoted (shownText w reference.toList) else "")

def texLine (w : Wanted) (s : Source) (f : Fields) (reference : String) : String :=
  let shown := shownField w s
  let braced (text : String) : String := "\x7b" ++ text ++ "\x7d"
  let middle := pastSome w s f.keyAfter.stop f.keyAfter.start
  "\\" ++ w.command ++ " " ++ braced (shown f.tail) ++ braced (shown f.before) ++
    braced (shown { f.keyAfter with stop := middle }) ++ braced (shown { f.keyAfter with start := middle }) ++
    braced (shown f.head) ++ (if w.refers then braced (shownText w reference.toList) else "")

/-- What a line is referred to by. The counts are those of the lines up to the end of each text. -/
def referenceOf (w : Wanted) (counts : List Nat) (s : Source) (o : Occurrence) : String :=
  if w.numbers then
    let before := if o.file == 0 then 0 else counts.getD (o.file - 1) 0
    s.name.getD "" ++ s!":{o.line + 1 - before}"
  else if w.labels then
    String.ofList (s.text.extract o.line (pastWord s.text o.contextStop o.line)).toList
  else ""

def lineOf (w : Wanted) (widths : Widths) (counts : List Nat) (s : Source) (o : Occurrence) : String :=
  let f := fieldsOf w widths s o
  let reference := referenceOf w counts s o
  match w.format with
  | .plain => plainLine w widths s f reference
  | .roff => roffLine w s f reference
  | .tex => texLine w s f reference

/-- The widest name of a file with the number of one of its lines. -/
def widestNumber (sources : List Source) (counts : List Nat) : Nat :=
  let widths := (sources.zip (counts.zip (0 :: counts))).map fun (s, count, before) =>
    (toString (count + 1 - before)).length + (s.name.map (·.length)).getD 0
  widths.foldl max 0 + 1

/-! ## Options -/

/-- The value of digits in a base, at most three of them, and the rest. -/
def escapedNumber (base : Nat) (cs : List Char) : Option Nat × List Char :=
  let digits := (cs.take 3).takeWhile fun c => (Number.Floating.digitValue? base c).isSome
  let value := digits.foldl (fun n c => base * n + (Number.Floating.digitValue? base c).getD 0) 0
  (if digits.isEmpty then none else some (value % 256), cs.drop digits.length)

/-- A text whose escapes stand for what they name. The number is more than it is long. -/
def unescaped : Nat → List Char → List Char
  | 0, cs => cs
  | _, [] => []
  | fuel + 1, '\\' :: cs => match cs with
    | [] => []
    | 'x' :: rest => match escapedNumber 16 rest with
      | (none, rest) => '\\' :: 'x' :: unescaped fuel rest
      | (some n, rest) => Char.ofNat n :: unescaped fuel rest
    | '0' :: rest =>
      let (n, rest) := escapedNumber 8 rest
      Char.ofNat (n.getD 0) :: unescaped fuel rest
    | 'c' :: _ => []
    | c :: rest => match [('a', '\x07'), ('b', '\x08'), ('f', '\x0c'), ('n', '\n'), ('r', '\r'), ('t', '\t'),
        ('v', '\x0b')].lookup c with
      | some char => char :: unescaped fuel rest
      | none => '\\' :: c :: unescaped fuel rest
  | fuel + 1, c :: cs => c :: unescaped fuel cs

/-- A word of an option with its escapes; it ends in front of a zero byte. -/
def escapedWord (word : String) : String :=
  String.ofList ((unescaped (word.length + 1) word.toList).takeWhile (· != '\x00'))

/-- The part of a range that lies between two characters. -/
def within (low high : Char) (range : Char × Char) : List (Char × Char) :=
  let first := if range.1 < low then low else range.1
  let last := if high < range.2 then high else range.2
  if first ≤ last then [(first, last)] else []

/-- A range of characters, with capitals in place of small letters. -/
def foldRange (range : Char × Char) : List (Char × Char) :=
  within '\x00' '\x60' range ++ within '\x7b' '\xff' range ++
    (within 'a' 'z' range).map fun (first, last) => (first.toUpper, last.toUpper)

/-- An expression for texts in which all letters are capitals. -/
def foldRegular : Regular → Regular
  | .char c => .char c.toUpper
  | .oneOf negated ranges => .oneOf negated (ranges.flatMap foldRange)
  | .group n r => .group n (foldRegular r)
  | .both r s => .both (foldRegular r) (foldRegular s)
  | .either r s => .either (foldRegular r) (foldRegular s)
  | .times r least most => .times (foldRegular r) least most
  | r => r

def regular (folds : Bool) (text : String) : Tool Regular :=
  match Regular.ofString? .editor text with
  | .ok (r, _) => return if folds then foldRegular r else r
  | .error mistake => fail 1 (mistake.message ++ " (for regexp " ++ quote text ++ ")")

/-- What sentences end with. -/
def sentenceEnd : String := "[.?!][]\"')\x7d]*\\($\\|\t\\|  \\)[ \t\n]*"

/-- All that a file holds. -/
def swallow (name : String) : Tool String := do
  let name := if name.isEmpty then "-" else name
  match ← openOperand name with
  | .error e => fail 1 (quoteName name ++ ": " ++ e.message)
  | .ok fd =>
    let (bytes, failure) ← readWhole fd
    closeOperand fd
    if let some e := failure then fail 1 (quoteName name ++ ": " ++ e.message)
    return ByteText.ofBytes bytes

/-- The words in a file, one in a line. -/
def wordList (name : Option String) : Tool (List String) := do
  match name with
  | none => return []
  | some name => return ((← swallow name).splitOn "\n").filter (!·.isEmpty)

def switches : List Switch := Switch.ofLetters "AF:GM:ORS:TW:b:i:fg:o:trw:" ++ [
  ⟨"A", "auto-reference", .none⟩, ⟨"b", "break-file", .required⟩, ⟨"F", "flag-truncation", .required⟩,
  ⟨"f", "ignore-case", .none⟩, ⟨"g", "gap-size", .required⟩, ⟨"i", "ignore-file", .required⟩,
  ⟨"M", "macro-name", .required⟩, ⟨"o", "only-file", .required⟩, ⟨"r", "references", .none⟩,
  ⟨"R", "right-side-refs", .none⟩, ⟨"format", "format", .required⟩, ⟨"S", "sentence-regexp", .required⟩,
  ⟨"G", "traditional", .none⟩, ⟨"t", "typeset-mode", .none⟩, ⟨"w", "width", .required⟩,
  ⟨"W", "word-regexp", .required⟩]

/-- A number of columns. -/
def columns (what text : String) : Tool Int := do
  match Amount.readIn 0 true "" text with
  | .ok n => if 0 < n then return n else refuse
  | .error _ => refuse
where
  refuse : Tool Int := fail 1 (what ++ ": " ++ quote text)

/-- What options say about numbers and formats, in their order. -/
structure Choice where
  gap : Int := 3
  width : Int := 72
  format : Option Format := none

def Choice.add (c : Choice) (option : Given) : Tool Choice := do
  match option with
  | ("g", some text) => return { c with gap := ← columns "invalid gap width" text }
  | ("w", some text) => return { c with width := ← columns "invalid line width" text }
  | ("O", _) => return { c with format := some .roff }
  | ("T", _) => return { c with format := some .tex }
  | ("format", some word) =>
    return { c with format := some (← choose "--format" [("roff", Format.roff), ("tex", Format.tex)] word) }
  | _ => return c

/-- Which characters words are made of, if no expression says it. -/
def lettersOf (extends_ : Bool) (breaks : Option String) : Tool (Char → Bool) := do
  let isBlank (c : Char) : Bool := c == ' ' || c == '\t' || c == '\n'
  match breaks with
  | some name =>
    let cs := (← swallow name).toList
    return fun c => !cs.contains c && (extends_ || !isBlank c)
  | none => return if extends_ then Char.isAlpha else (!isBlank ·)

def wantedOf (p : Parsed) (c : Choice) : Tool Wanted := do
  let extends_ := !p.has "G"
  let folds := p.has "f"
  let labels := p.has "r"
  let given (key : String) : Option String := (p.last? key).map escapedWord
  let contextText := (given "S").getD (if extends_ && !labels then sentenceEnd else "\n")
  let contextEnd ← if contextText.isEmpty then pure none else some <$> regular folds contextText
  let expression ← ((given "W").filter (!·.isEmpty)).mapM (regular folds)
  let letters ← lettersOf extends_ (p.last? "b")
  return {
    extends_, folds, labels, contextText, contextEnd
    words := match expression with
      | some r => .matching r
      | none => .letters letters
    ignored := ← wordList (p.last? "i"), only := ← wordList (p.last? "o")
    numbers := p.has "A", referencesRight := p.has "R"
    format := c.format.getD (if extends_ then .plain else .roff), gap := c.gap, width := c.width
    truncation := (given "F").getD "/", command := (p.last? "M").getD "xx" }

end Concordance

open Concordance in
def ptx (call : Call) : Tool Nat := do
  let (p, c) ← parseInto switches false 1 call.operands {} Choice.add
  let extends_ := !p.has "G"
  let names := if extends_ then orInput p.operands else [p.operands.headD "-"]
  -- In the traditional way the second operand names the output.
  let output ← match extends_, p.operands with
    | false, _ :: path :: rest =>
      match ← act (Act.openFile path { write := true, create := some 0o666, truncate := true }) with
      | .error e => fail 1 (quoteName path ++ ": " ++ e.message)
      | .ok fd =>
        if let extra :: _ := rest then extraOperand 1 extra
        pure (some fd)
    | _, _ => pure none
  let w ← wantedOf p c
  let mut scan : Scan := {}
  let mut sources : Array Source := #[]
  let mut counts : List Nat := []
  for (name, file) in names.zipIdx do
    let text := (← swallow name).toList.toArray
    let source : Source := {
      name := if name.isEmpty || name == "-" then none else some name
      text, folded := text.map (fold w.folds) }
    match find w file source scan with
    | .ok next => scan := next
    | .error () =>
      fail 1 ("error: regular expression has a match of length zero: " ++ quote w.contextText)
    sources := sources.push source
    counts := counts ++ [scan.lines]
  let reference := if w.numbers then widestNumber sources.toList counts else scan.widestLabel
  let widths := widthsOf w reference scan.widest
  let lines := (sorted w sources scan.found).map fun o =>
    match sources[o.file]? with
    | some s => lineOf w widths counts s o ++ "\n"
    | none => ""
  match output with
  | none => put (ByteText.toBytes (String.join lines))
  | some fd =>
    if let .error e ← act (Act.write fd (ByteText.toBytes (String.join lines))) then
      fail 1 ("write error: " ++ e.message)
  return 0

end PipeShell.Host.Tool
