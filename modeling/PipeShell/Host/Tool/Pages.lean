import PipeShell.Host.Tool.Amount
import PipeShell.Host.Tool.Date
import PipeShell.Host.Tool.Pages.Sheet
import PipeShell.Text.Width

/-! # Files on pages

Files are laid out on pages with a title above each, in one column or in several; several files may
stand side by side. -/

namespace PipeShell.Host.Tool
namespace Pages

/-- What the options say. -/
structure Wanted where
  firstPage : Option Nat := none
  lastPage : Option Nat := none
  columns : Option Nat := none
  /-- Columns that are given by digits, one after another. -/
  digits : String := ""
  continuesDigits : Bool := false
  across : Bool := false
  parallel : Bool := false
  controls : Controls := .asTheyAre
  usesCarets : Bool := false
  usesEscapes : Bool := false
  double : Bool := false
  dateForm : Option String := none
  expands : Bool := false
  input : Tabs := {}
  collapses : Bool := false
  output : Tabs := {}
  feeds : Bool := false
  title : Option String := none
  joins : Bool := false
  length : Nat := 66
  isNumbered : Bool := false
  numbers : Tabs := { width := 5 }
  firstNumber : Int := 1
  countsSkipped : Bool := true
  margin : Nat := 0
  quiet : Bool := false
  separator : String := ""
  /-- Whether a separator is given in the new way, and whether one is in the old way. -/
  separates : Bool := false
  separatesOld : Bool := false
  hasEnds : Bool := true
  keepsFeeds : Bool := false
  truncates : Bool := false
  width : Nat := 72
  isOldWidth : Bool := false
  usesOld : Bool := false
  names : List String := []

/-! ## Options -/

def switches : List Switch :=
  Switch.operand :: Switch.ofLetters "0123456789D:FJN:TW:abcdfh:l:mo:rtvw:" ++ [
  ⟨"S", "sep-string", .optional⟩, ⟨"e", "expand-tabs", .optional⟩, ⟨"i", "output-tabs", .optional⟩,
  ⟨"n", "number-lines", .optional⟩, ⟨"s", "separator", .optional⟩, ⟨"pages", "pages", .required⟩,
  ⟨"columns", "columns", .required⟩, ⟨"a", "across", .none⟩, ⟨"c", "show-control-chars", .none⟩,
  ⟨"d", "double-space", .none⟩, ⟨"D", "date-format", .required⟩, ⟨"f", "form-feed", .none⟩,
  ⟨"h", "header", .required⟩, ⟨"J", "join-lines", .none⟩, ⟨"l", "length", .required⟩,
  ⟨"m", "merge", .none⟩, ⟨"N", "first-line-number", .required⟩, ⟨"o", "indent", .required⟩,
  ⟨"r", "no-file-warnings", .none⟩, ⟨"t", "omit-header", .none⟩, ⟨"T", "omit-pagination", .none⟩,
  ⟨"v", "show-nonprinting", .none⟩, ⟨"w", "width", .required⟩, ⟨"W", "page-width", .required⟩]

def largest : Int := 2 ^ 31 - 1

def number (least : Int) (what text : String) : Tool Int := amountWithin true "" least largest what text

/-- Reads a character and a number, each of which may be missing. -/
def tabsOf (letter : String) (usual : Tabs) (text : String) : Tool Tabs := do
  let cs := text.toList
  if cs.isEmpty then misuse 1 ("'-" ++ letter ++ "': Invalid argument: " ++ quote text)
  let (char, rest) := match cs with
    | c :: rest => if c.isDigit then (usual.char, cs) else (Encoding.toByte c, rest)
    | [] => (usual.char, cs)
  if rest.isEmpty then return { usual with char }
  let text := String.ofList rest
  let refuse (why : Message) : Tool Tabs :=
    misuse 1 ("'-" ++ letter ++ "' extra characters or invalid number in the argument: " ++ quote text ++ why)
  match Amount.read true "" text with
  | .ok n =>
    if n ≤ 0 then refuse ""
    else if largest < n then refuse (": " ++ valueTooLarge.message)
    else return { char, width := n.toNat }
  | .error .tooLarge | .error (.badSuffix _ true) => refuse (": " ++ valueTooLarge.message)
  | .error _ => refuse ""

/-- Ends the tool because of the number of a page. -/
def refusePage {α : Type} (option text : String) (mistake : Amount.Mistake) : Tool α :=
  refuseArgument 1 option text mistake

/-- Reads the first page and perhaps the last. -/
def pageRange? (option text : String) : Tool (Option (Nat × Option Nat)) := do
  let start (cs : List Char) : Tool (Nat × List Char) := do
    let isMinus := (cs.dropWhile Number.Floating.isSpace).head? == some '-'
    let (n, far, rest) := Number.Integer.read 10 cs
    if isMinus || rest.length == cs.length then refusePage option text .noNumber
    if far then refusePage option text (if rest.isEmpty then .tooLarge else .badSuffix n true)
    return (n.toNat, rest)
  let (first, rest) ← start text.toList
  if first == 0 then return none
  match rest with
  | [] => return some (first, none)
  | ':' :: cs =>
    let (last, rest) ← start cs
    if !rest.isEmpty then refusePage option text (.badSuffix last false)
    return if last < first then none else some (first, some last)
  | _ => return none

def withPages (w : Wanted) (range : Nat × Option Nat) : Wanted :=
  { w with firstPage := some range.1, lastPage := range.2 }

/-- Adds an option to what has been said. -/
def Wanted.add (w : Wanted) (option : Given) : Tool Wanted := do
  let (key, value) := option
  let word := value.getD ""
  if key.length == 1 && key.toList.all Char.isDigit then
    return { w with digits := if w.continuesDigits then w.digits ++ key else key, continuesDigits := true }
  let w := { w with continuesDigits := false }
  match key with
  | "" =>
    if w.firstPage.isNone && word.startsWith "+" then
      if let some range ← pageRange? "+" (String.ofList (word.toList.drop 1)) then
        return withPages w range
    return { w with names := w.names ++ [word] }
  | "pages" => match ← pageRange? "--pages" word with
    | some range => return withPages w range
    | none => fail 1 ("invalid page range " ++ quote word)
  | "columns" =>
    return { w with columns := some (← number 1 "invalid number of columns" word).toNat, digits := "" }
  | "a" => return { w with across := true }
  | "c" => return { w with usesCarets := true }
  | "d" => return { w with double := true }
  | "D" => return { w with dateForm := some word }
  | "e" =>
    let input ← if value.isSome then tabsOf "e" w.input word else pure w.input
    return { w with expands := true, input }
  | "f" | "F" => return { w with feeds := true }
  | "h" => return { w with title := some word }
  | "i" =>
    let output ← if value.isSome then tabsOf "i" w.output word else pure w.output
    return { w with collapses := true, output }
  | "J" => return { w with joins := true }
  | "l" => return { w with length := (← number 1 "'-l PAGE_LENGTH' invalid number of lines" word).toNat }
  | "m" => return { w with parallel := true }
  | "n" =>
    let numbers ← if value.isSome then tabsOf "n" w.numbers word else pure w.numbers
    return { w with isNumbered := true, numbers }
  | "N" =>
    let firstNumber ← number (-largest - 1) "'-N NUMBER' invalid starting line number" word
    return { w with firstNumber, countsSkipped := false }
  | "o" => return { w with margin := (← number 0 "'-o MARGIN' invalid line offset" word).toNat }
  | "r" => return { w with quiet := true }
  | "s" => return { w with
      usesOld := true, separatesOld := true
      separator := if w.separates then w.separator else value.getD w.separator }
  | "S" => return { w with separatesOld := false, separates := true, separator := word }
  | "t" => return { w with hasEnds := false, keepsFeeds := true }
  | "T" => return { w with hasEnds := false, keepsFeeds := false }
  | "v" => return { w with usesEscapes := true }
  | "w" =>
    let width := (← number 1 "'-w PAGE_WIDTH' invalid number of characters" word).toNat
    return { w with usesOld := true, isOldWidth := true, width := if w.truncates then w.width else width }
  | "W" =>
    let width := (← number 1 "'-W PAGE_WIDTH' invalid number of characters" word).toNat
    return { w with isOldWidth := false, truncates := true, width }
  | _ => return w

/-- Gives the older options their meaning among the others. -/
def Wanted.settled (w : Wanted) : Wanted :=
  let hasColumns := w.parallel || w.columns.isSome
  if !w.usesOld then w
  else if w.isOldWidth then
    if hasColumns then { w with truncates := true, separates := w.separates || w.separatesOld }
    else { w with joins := true }
  else if !w.separates && w.separatesOld && hasColumns then
    if w.truncates then { w with separates := true }
    else { w with joins := true, separates := !w.separator.isEmpty }
  else w

/-! ## Layout -/

/-- The layout for a number of files; none if a column would have no width. -/
def layoutFor (w : Wanted) (files : Nat) : Option Layout :=
  let hasRoom := 2 * endLines < w.length
  let hasEnds := w.hasEnds && hasRoom
  let lines := if hasEnds then w.length - 2 * endLines else w.length
  let parallel := w.parallel && files != 0
  let columns := if parallel then files else w.columns.getD 1
  let isTab := w.separator == "\t"
  let separator :=
    if columns ≤ 1 then w.separator
    else if !w.separates then (if w.joins then "\t" else " ")
    else if !w.joins && isTab then " " else w.separator
  let several := 1 < columns
  let numberWidth : Int := w.numbers.width + (if w.numbers.char == 9 then Tabs.gap 8 w.numbers.width else 1)
  let used : Int := if w.isNumbered && parallel then numberWidth else 0
  let columnWidth := ((w.width : Int) - used - (columns - 1 : Nat) * separator.length).tdiv columns
  if columnWidth < 1 then none
  else some {
    lines := if w.double then max 1 (lines / 2) else lines
    hasEnds, keepsFeeds := w.keepsFeeds || !hasRoom, parallel, columns
    stores := several && !w.across && !w.parallel
    separator := ByteText.toBytes separator
    separates := w.separates || several
    truncates := (w.truncates || several) && !w.joins
    columnWidth
    input := w.input, expands := w.expands || (several && separator != "\t")
    output := w.output, collapses := w.collapses || several
    numbers := if w.isNumbered then some w.numbers else none
    numberWidth := numberWidth.toNat
    controls := if w.usesEscapes then .escapes else if w.usesCarets then .carets else .asTheyAre
    double := w.double, feeds := w.feeds, margin := w.margin, countsSkipped := w.countsSkipped
    lastPage := w.lastPage }

/-- Where columns begin, and which of them have numbers. -/
def columnsAt (l : Layout) (sources : List Nat) : Array Column :=
  let first : Int := l.margin + l.separator.size
  let second : Int := l.margin + l.columnWidth + (if l.parallel && l.numbers.isSome then l.numberWidth else 0) +
    l.separator.size
  let start (i : Nat) : Int :=
    if i == 0 then first
    else if l.truncates then second + (i - 1 : Nat) * (l.columnWidth + l.separator.size)
    else 0
  (sources.zipIdx.map fun (source, i) =>
    { source, start := start i, isNumbered := l.numbers.isSome && (!l.parallel || i == 0) }).toArray

/-! ## Files -/

/-- The columns that a text takes. -/
def widthOf (e : Encoding) (text : String) : Nat :=
  ((e.glyphs text).map fun g => match g.char with
    | some c => if Encoding.shows c then Text.width c else if c.toNat < 32 || c.toNat == 127 then 0 else 1
    | none => 1).foldl (· + ·) 0

/-- Opens a file. If that is not possible it is said, unless that is not wanted. -/
def openSource (w : Wanted) (s : Sheet) (name : String) : Tool (Option (Nat × Sheet × Option Moment)) := do
  let standard := "standard input"
  match name, s.sources.findIdx? (·.name == standard) with
  | "-", some i => return some (i, s, none)
  | _, _ =>
    match ← openOperand name with
    | .error e =>
      if !w.quiet then warn (quoteName name ++ ": " ++ e.message)
      return none
    | .ok fd =>
      let time ← if name == "-" then pure none
        else do
          let place ← act (Act.nodeAt? fd)
          files fun fs _ => place.bind fun (i, _) => (fs.node? i).map (·.modified)
      let (bytes, failure) ← readWhole fd
      closeOperand fd
      let source := { name := if name == "-" then standard else name, bytes, failure }
      return some (s.sources.size, { s with sources := s.sources.push source }, time)

/-- What is said above the pages of files. -/
def withTitle (w : Wanted) (zone : Zone) (form name : String) (time : Option Moment) (s : Sheet) : Tool Sheet := do
  let moment ← match time with
    | some moment => pure moment
    | none => presentMoment
  let date := formed zone form moment
  let title := w.title.getD name
  let e := (← get).encoding
  return { s with date, title, titleRoom := (w.width : Int) - widthOf e date - widthOf e title }

/-- Puts a group of files on pages, side by side if there are several; whether all of them could be
opened. -/
def showGroup (w : Wanted) (zone : Zone) (form : String) (s : Sheet) (names : List String) :
    Tool (Bool × Sheet) := do
  let some l := layoutFor w names.length | fail 1 "page width too narrow"
  let (s, sources, time) ← (if names.isEmpty then ["-"] else names).foldlM
    (fun (state : Sheet × List Nat × Option Moment) name => do
      let (s, sources, _) := state
      match ← openSource w s name with
      | some (i, s, time) => return (s, sources ++ [i], time)
      | none => return state)
    (s, [], none)
  let ok := names.isEmpty || sources.length == names.length
  if sources.isEmpty then return (false, s)
  let l := if l.parallel then { l with columns := sources.length } else l
  let ready := sources.length
  let name := match names with
    | [name] => if l.parallel || name == "-" then "" else name
    | _ => ""
  let s ← withTitle w zone form name (if l.parallel then none else time) s
  let all := if l.parallel then sources else List.replicate l.columns (sources.headD 0)
  let s := { s with columns := columnsAt l all, ready, firstNumber := if w.isNumbered then w.firstNumber else s.firstNumber }
  let size := (s.sources.toList.map (·.bytes.size)).foldl (· + ·) 0
  let first := w.firstPage.getD 1
  let work : Press (Option Nat) := do
    if let some count ← skipPages l 0 (first - 1) then return some count
    modify fun s => { s with page := first, lineNumber := s.firstNumber }
    putPages l (2 * size + l.columns + 4)
    return none
  let (answer, done) := work.run s
  put done.out
  let s := { done with out := .empty }
  match answer with
  | .error failure => fail 1 (quoteName failure.name ++ ": " ++ failure.error.message)
  | .ok (some count) =>
    warn s!"starting page number {first} exceeds page count {count}"
    return (ok, s)
  | .ok none => return (ok, s)

end Pages

open Pages in
def pr (call : Call) : Tool Nat := do
  let (p, w) ← parseInto switches false 1 call.operands {} Wanted.add
  let columns ← if w.digits.isEmpty then pure w.columns
    else pure (some (← number 1 "invalid number of columns" w.digits).toNat)
  let w := { w with columns, names := w.names ++ p.operands }
  let form := w.dateForm.getD (if (← get).isStrict then "%b %e %H:%M %Y" else "%Y-%m-%d %H:%M")
  if w.parallel && w.columns.isSome then
    fail 1 "cannot specify number of columns when printing in parallel"
  if w.parallel && w.across then
    fail 1 "cannot specify both printing across and printing in parallel"
  let w := w.settled
  let zone := zoneOf call.environment
  let groups := if w.names.isEmpty || w.parallel then [w.names] else w.names.map ([·])
  let mut ok := true
  let mut s : Sheet := {}
  for group in groups do
    let (opened, next) ← showGroup w zone form s group
    s := next
    ok := ok && opened
  return if ok then 0 else 1

end PipeShell.Host.Tool
