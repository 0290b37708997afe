import PipeShell.Host.Tool.Options

/-! # Pages that are being filled

Columns read their lines from the same input or from one input each. Blanks and separators are put
off until something stands behind them, so that nothing hangs at the end of a line. -/

namespace PipeShell.Host.Tool
namespace Pages

/-- A character that leads to the next of equally wide columns. -/
structure Tabs where
  char : UInt8 := 9
  width : Nat := 8

namespace Tabs

/-- The columns from a position to the next stop. -/
def gap (width : Nat) (position : Int) : Int := width - position.tmod width

def next (width : Nat) (position : Int) : Int := position + gap width position

end Tabs

/-- How characters are shown that have no shape. -/
inductive Controls where
  | asTheyAre | carets | escapes
  deriving DecidableEq

/-- How pages are laid out. -/
structure Layout where
  /-- The lines of a page, without those above and below. -/
  lines : Nat
  /-- Whether there are lines above and below. -/
  hasEnds : Bool
  /-- Whether form feeds of the input end pages of the output. -/
  keepsFeeds : Bool
  /-- Whether each column has an input of its own. -/
  parallel : Bool
  columns : Nat
  /-- Whether all lines of a page are read before the first is shown. -/
  stores : Bool
  separator : ByteArray
  /-- Whether the separator is shown. -/
  separates : Bool
  truncates : Bool
  columnWidth : Int
  /-- How tabs in the input are read, and whether they become blanks. -/
  input : Tabs
  expands : Bool
  /-- How blanks become tabs, if they do. -/
  output : Tabs
  collapses : Bool
  /-- What stands behind numbers, and how many digits they have. -/
  numbers : Option Tabs
  /-- The columns that a number takes. -/
  numberWidth : Nat
  controls : Controls
  double : Bool
  /-- Whether pages end with form feeds. -/
  feeds : Bool
  margin : Nat
  /-- Whether lines on pages that are not shown have numbers. -/
  countsSkipped : Bool
  lastPage : Option Nat

/-- Where the input of a column stands. -/
inductive Status where
  | ready
  /-- A form feed ends the page. -/
  | held
  /-- A form feed ends the page, and its lines are stored. -/
  | fed
  | closed
  deriving DecidableEq

/-- An input, and how far it has been read. -/
structure Source where
  name : String
  bytes : ByteArray
  failure : Option Errno := none
  position : Nat := 0

structure Column where
  source : Nat
  status : Status := .ready
  /-- How many lines of the page are still to be shown. -/
  left : Nat := 0
  /-- The next of the stored lines, and how many of them there are. -/
  next : Nat := 0
  stored : Nat := 0
  start : Int := 0
  isNumbered : Bool := false
  /-- Whether the last page was full, so that a form feed adds nothing. -/
  wasFull : Bool := false
  deriving Inhabited

structure StoredLine where
  text : ByteArray := .empty
  width : Int := 0

structure Sheet where
  out : ByteArray := .empty
  sources : Array Source := #[]
  columns : Array Column := #[]
  /-- How many inputs may be read from. -/
  ready : Int := 0
  /-- What stands above a page, but for the number of the page. -/
  date : String := ""
  title : String := ""
  /-- The columns that are left for blanks and the number of the page. -/
  titleRoom : Int := 0
  page : Nat := 1
  lineNumber : Int := 1
  firstNumber : Int := 1
  /-- The place in the output, and in the line that is read. -/
  position : Int := 0
  inputPosition : Int := 0
  /-- Blanks and separators that have been put off. -/
  blanks : Int := 0
  separators : Nat := 0
  padding : Int := 0
  /-- Whether lines above the page are still to be shown. -/
  owesTitle : Bool := false
  owesFeed : Bool := false
  /-- Whether something was shown in a row, and on the page. -/
  inRow : Bool := false
  onPage : Bool := false
  isEmptyRow : Bool := true
  skipsColumns : Bool := false
  onlyFeed : Bool := false
  /-- The lines of the page that are stored, and the one that is being stored. -/
  lines : Array StoredLine := #[]
  line : ByteArray := .empty

/-- An input could not be read. -/
structure Failure where
  name : String
  error : Errno

/-- The work on a sheet. -/
abbrev Press := ExceptT Failure (StateM Sheet)

variable (l : Layout)

/-! ## Columns and their inputs -/

def column (i : Nat) : Press Column := return (← get).columns.getD i default

def change (i : Nat) (f : Column → Column) : Press Unit :=
  modify fun s => { s with columns := s.columns.modify i f }

def changeAll (f : Column → Column) : Press Unit :=
  modify fun s => { s with columns := s.columns.map f }

/-- How many columns have something to show. -/
def showing : Press Nat := do
  return (← get).columns.toList.countP fun c =>
    c.status == .ready || c.status == .fed || (l.stores && 0 < c.stored && 0 < c.left)

def peek (i : Nat) : Press (Option UInt8) := do
  let s ← get
  let source := (s.columns.getD i default).source
  return (s.sources[source]?).bind fun source => source.bytes[source.position]?

def skip (i : Nat) : Press Unit := do
  let source := (← column i).source
  modify fun s => { s with
    sources := s.sources.modify source fun f => { f with position := f.position + 1 } }

/-- Takes the next byte of an input. -/
def take (i : Nat) : Press (Option UInt8) := do
  let byte ← peek i
  if byte.isSome then skip i
  return byte

/-- Takes a line break that stands behind a form feed. -/
def skipBreak (i : Nat) : Press Unit := do
  if (← peek i) == some 10 then skip i

/-- Ends an input, if it is not ended. -/
def close (i : Nat) : Press Unit := do
  let c ← column i
  if c.status != .closed then
    if let some source := (← get).sources[c.source]? then
      if let some e := source.failure then throw ⟨source.name, e⟩
    if l.parallel then change i fun c => { c with status := .closed, left := 0 }
    else changeAll fun c => { c with status := .closed, left := if c.stored == 0 then 0 else c.left }
    modify fun s => { s with ready := s.ready - 1 }

/-- Lets an input wait for the next page. -/
def hold (i : Nat) : Press Unit := do
  if l.parallel then change i fun c => { c with status := .held }
  else changeAll fun c => { c with status := if l.stores then .fed else .held }
  change i fun c => { c with left := 0 }
  modify fun s => { s with ready := s.ready - 1 }

/-- Lets inputs go on that have waited for a new page. -/
def release : Press Unit := do
  let waiting := (← get).columns.toList.countP (·.status == .held)
  changeAll fun c => { c with status := if c.status == .held then .ready else c.status }
  modify fun s => { s with
    ready := if !l.stores then s.ready + waiting
      else if s.columns[0]?.any (·.status == .closed) then 0 else 1 }

/-! ## Output -/

def putByte (b : UInt8) : Press Unit := modify fun s => { s with out := s.out.push b }

def putText (text : String) : Press Unit := modify fun s => { s with out := s.out ++ ByteText.toBytes text }

def putMany (n : Nat) (b : UInt8) : Press Unit :=
  modify fun s => { s with out := s.out ++ ⟨(List.replicate n b).toArray⟩ }

/-- How many tabs lead from a position as far as possible to another one, and where they lead. The
number bounds how many there are. -/
def tabsTo (width : Nat) (position goal : Int) : Nat → Nat × Int
  | 0 => (0, position)
  | fuel + 1 =>
    let next := Tabs.next width position
    if 1 < goal - position && next ≤ goal then
      let (n, position) := tabsTo width next goal fuel
      (n + 1, position)
    else (0, position)

/-- Shows the blanks that have been put off. -/
def putBlanks : Press Unit := do
  let s ← get
  let goal := s.position + s.blanks
  let (tabs, position) := tabsTo l.output.width s.position goal s.blanks.toNat
  putMany tabs l.output.char
  putMany (goal - position).toNat 32
  modify fun s => { s with position := goal, blanks := 0 }

/-- Goes on to a position. -/
def padTo (position : Int) : Press Unit := do
  if l.collapses then modify fun s => { s with blanks := position - s.position }
  else
    putMany (position - (← get).position).toNat 32
    modify fun s => { s with position }

def isShape (b : UInt8) : Bool := 32 ≤ b && b < 127

/-- Shows a byte; blanks are put off where they may become tabs. -/
def putChar (b : UInt8) : Press Unit := do
  if l.collapses then
    if b == 32 then
      modify fun s => { s with blanks := s.blanks + 1 }
      return
    if 0 < (← get).blanks then putBlanks l
    modify fun s => { s with
      position := if isShape b then s.position + 1 else if b == 8 then s.position - 1 else s.position }
  putByte b

/-- Shows or stores a byte of a line. -/
def putOrStore (b : UInt8) : Press Unit :=
  if l.stores then modify fun s => { s with line := s.line.push b } else putChar l b

/-- Shows a separator. Blanks at its end are put off no longer. -/
def putSeparator : Press Unit := do
  for b in l.separator.toList do
    if b == 32 then modify fun s => { s with blanks := s.blanks + 1 }
    else
      if 0 < (← get).blanks then putBlanks l
      putByte b
      modify fun s => { s with position := s.position + 1 }
  if 0 < (← get).blanks then putBlanks l

/-- Shows the separators that have been put off. One stands for all. -/
def putSeparators : Press Unit := do
  if (← get).separators == 0 then
    if 0 < (← get).blanks then putBlanks l
  else
    putSeparator l
    modify fun s => { s with separators := 0 }

/-- Shows the number of a line, of which only the last digits may have room. -/
def putNumber : Press Unit := do
  if let some form := l.numbers then
    let digits := toString (← get).lineNumber
    modify fun s => { s with lineNumber := s.lineNumber + 1 }
    let text := String.ofList (List.replicate (form.width - digits.length) ' ') ++ digits
    for c in text.toList.drop (text.length - form.width) do putOrStore l (UInt8.ofNat c.toNat)
    if 1 < l.columns then
      if form.char == 9 then
        for _ in List.range (l.numberWidth - form.width) do putOrStore l 32
      else putOrStore l form.char
    else
      putOrStore l form.char
      if form.char == 9 then
        modify fun s => { s with position := Tabs.next l.output.width s.position }
    if l.truncates && !l.parallel then
      modify fun s => { s with inputPosition := s.inputPosition + l.numberWidth }

/-- Goes on to where a cell begins. -/
def padCell : Press Unit := do
  let s ← get
  if (l.separator.size : Int) < s.padding then
    padTo l (s.padding - l.separator.size)
    modify fun s => { s with padding := 0 }
  if l.separates then putSeparators l

/-- Begins a cell in which nothing else is shown. -/
def putEmptyCell (i : Nat) : Press Unit := do
  let c ← column i
  modify fun s => { s with padding := c.start }
  padCell l
  if c.isNumbered then putNumber l

/-- Shows the lines above a page. -/
def putTitle : Press Unit := do
  modify fun s => { s with position := 0 }
  padTo l l.margin
  putBlanks l
  let s ← get
  let page := s!"Page {s.page}"
  let room := (s.titleRoom - page.length).toNat
  let left := room / 2
  let gap (n : Nat) : String := String.ofList (List.replicate (max n 1) ' ')
  putText ("\n\n" ++ String.ofList (List.replicate l.margin ' ') ++ s.date ++ gap left ++ s.title ++
    gap (room - left) ++ page ++ "\n\n\n")
  modify fun s => { s with owesTitle := false, position := 0 }

/-! ## Lines -/

def octal (b : UInt8) : List UInt8 :=
  92 :: [b / 64, b / 8 % 8, b % 8].map (· + 48)

/-- A byte as it is shown at a position of its line, and the position behind it. -/
def clump (b : UInt8) (position : Int) : List UInt8 × Int :=
  let (bytes, width) : List UInt8 × Int :=
    if b == l.input.char || b == 9 then
      let width := Tabs.gap (if b == l.input.char then l.input.width else 8) position
      (if l.expands then List.replicate width.toNat 32 else [b], width)
    else if isShape b then ([b], 1)
    else match l.controls with
      | .escapes => (octal b, 4)
      | .carets => if b < 128 then ([94, b ^^^ 64], 2) else (octal b, 4)
      | .asTheyAre => ([b], if b == 8 then -1 else 0)
  if width < 0 && position == 0 then ([], 0) else (bytes, max 0 (position + width))

/-- Passes over the rest of a line that has no room. The number bounds how long it is. -/
def skipRest (i : Nat) : Nat → Press Unit
  | 0 => return ()
  | fuel + 1 => do
    match ← take i with
    | some 10 => return ()
    | some 12 =>
      skipBreak i
      if l.keepsFeeds then modify fun s => { s with owesFeed := true }
      hold l i
    | none => close l i
    | some _ => skipRest i fuel

/-- Shows or stores the rest of a line; whether it had room. The number bounds how long it is. -/
def finishLine (i : Nat) : Nat → Press Bool
  | 0 => return true
  | fuel + 1 => do
    match ← take i with
    | some 10 => return true
    | some 12 =>
      skipBreak i
      if l.keepsFeeds then modify fun s => { s with owesFeed := true }
      hold l i
      return true
    | none =>
      close l i
      return true
    | some b =>
      let (bytes, position) := clump l b (← get).inputPosition
      if l.truncates && l.columnWidth < position then return false
      modify fun s => { s with inputPosition := position }
      bytes.forM (putOrStore l)
      finishLine i fuel

/-- A bound for the length of what is left of an input. -/
def remaining (i : Nat) : Press Nat := do
  let source := (← column i).source
  return ((← get).sources[source]?.map fun f => f.bytes.size - f.position).getD 0 + 2

/-- Takes the first byte of a line. A form feed adds nothing behind a full page. -/
def firstByte (i : Nat) : Press (Option UInt8) := do
  let wasFull := (← column i).wasFull
  change i fun c => { c with wasFull := false }
  match ← take i with
  | some 12 =>
    if !wasFull then return some 12
    match ← take i with
    | some 10 => take i
    | byte => return byte
  | byte => return byte

/-- Begins a cell, with all that has been put off. -/
def beginCell (i : Nat) : Press Unit := do
  modify fun s => { s with inRow := true }
  if (← get).owesTitle then putTitle l
  if l.parallel && (← get).skipsColumns then
    let skipped := (← get).separators
    modify fun s => { s with separators := 0 }
    for j in List.range skipped do
      putEmptyCell l j
      modify fun s => { s with separators := s.separators + 1 }
    let start := (← column i).start
    modify fun s => { s with
      padding := start, blanks := if l.truncates then l.columnWidth else 0, skipsColumns := false }
  padCell l

/-- Reads a line of an input, and shows or stores it; whether it had room. -/
def readLine (i : Nat) : Press Bool := do
  match ← firstByte i with
  | some 12 =>
    skipBreak i
    modify fun s => { s with onlyFeed := true }
    if (← get).owesTitle && !l.stores then
      modify fun s => { s with inRow := true }
      putTitle l
    else if l.keepsFeeds then modify fun s => { s with owesFeed := true }
    hold l i
    return true
  | none =>
    close l i
    return true
  | some b =>
    let before := (← get).inputPosition
    let (bytes, position) := if b == 10 then ([], before) else clump l b before
    if l.truncates && l.columnWidth < position then return false
    modify fun s => { s with inputPosition := position }
    if !l.stores then beginCell l i
    if (← column i).isNumbered then putNumber l
    modify fun s => { s with isEmptyRow := false }
    if b == 10 then return true
    bytes.forM (putOrStore l)
    finishLine l i (← remaining i)

/-- Reads a line to its end, however much of it has room. -/
def readWholeLine (i : Nat) : Press Unit := do
  if !(← readLine l i) then skipRest l i (← remaining i)

/-! ## Stored lines -/

/-- Stores lines of a column, at most as many as the number says. -/
def storeColumn (i : Nat) : Nat → Press Unit
  | 0 => return ()
  | n + 1 => do
    if (← get).ready ≤ 0 then return
    if (← column i).status == .ready then
      modify fun s => { s with inputPosition := 0, line := .empty }
      readWholeLine l i
      if (← column i).status == .ready || !(← get).line.isEmpty then
        modify fun s => { s with lines := s.lines.push { text := s.line, width := s.inputPosition } }
    storeColumn i n

/-- Stores the lines of a page and shares them out among the columns. -/
def storePage : Press Unit := do
  modify fun s => { s with lines := #[] }
  changeAll fun c => { c with stored := 0 }
  for i in List.range l.columns do storeColumn l i l.lines
  let total := (← get).lines.size
  let share (i : Nat) : Nat := total / l.columns + (if i < total % l.columns then 1 else 0)
  for i in List.range l.columns do
    let before := ((List.range i).map share).foldl (· + ·) 0
    change i fun c => { c with stored := share i, left := share i, next := before }

/-- Shows the next stored line of a column. -/
def putStored (i : Nat) : Press Unit := do
  let c ← column i
  change i fun c => { c with next := c.next + 1 }
  modify fun s => { s with inRow := true }
  if (← get).owesTitle then putTitle l
  if c.status == .fed then
    changeAll fun c => { c with status := .held }
    if (← column 0).left == 0 then
      if !l.hasEnds then modify fun s => { s with inRow := false }
      return
  padCell l
  let line := (← get).lines.getD c.next {}
  line.text.toList.forM (putChar l)
  modify fun s =>
    if s.blanks != 0 then s
    else
      let isFirst := c.start - l.separator.size == (l.margin : Int)
      { s with position := c.start + line.width - (if isFirst then (l.separator.size : Int) else 0) }

/-! ## Pages -/

/-- Shows a cell of a row; whether the row ends with it. -/
def putCell (i : Nat) : Press Bool := do
  modify fun s => { s with inputPosition := 0 }
  let c ← column i
  if 0 < c.left || c.status == .fed then
    modify fun s => { s with onlyFeed := false, padding := c.start }
    if l.stores then putStored l i else readWholeLine l i
    modify fun s => { s with onPage := s.onPage || s.inRow }
    change i fun c => { c with left := c.left - 1 }
    let c ← column i
    if c.left == 0 && (← showing l) == 0 then return true
    if l.parallel && c.status != .ready then
      if (← get).isEmptyRow then modify fun s => { s with skipsColumns := true }
      else if c.status == .closed || (c.status == .held && (← get).onlyFeed) then putEmptyCell l i
  else if l.parallel then
    if (← get).isEmptyRow then modify fun s => { s with skipsColumns := true }
    else putEmptyCell l i
  if l.separates then modify fun s => { s with separators := s.separators + 1 }
  return false

/-- Shows the cells of a row from one on, of which there are as many as the number says. -/
def putCells (i : Nat) : Nat → Press Unit
  | 0 => return ()
  | n + 1 => do
    if !(← putCell l i) then putCells (i + 1) n

/-- Shows rows while there is room for them; how many lines are left. The last number bounds how many
rows there are. -/
def putRows (left : Int) : Nat → Press Int
  | 0 => return left
  | fuel + 1 => do
    if left ≤ 0 || (← showing l) == 0 then return left
    modify fun s => { s with
      position := 0, blanks := 0, separators := 0, inRow := false, skipsColumns := false, isEmptyRow := true }
    putCells l 0 l.columns
    let ends := (← get).inRow
    if ends then putByte 10
    let left := if ends then left - 1 else left
    if (← showing l) == 0 && !l.hasEnds then return left
    if l.double && (← get).onPage then
      putByte 10
      putRows (left - 1) fuel
    else putRows left fuel

/-- The lines above a page, and below. -/
def endLines : Nat := 5

/-- Fills a page; whether there may be more. -/
def putPage : Press Bool := do
  if l.stores then storePage l
  else changeAll fun c => { c with left := if c.status == .ready then l.lines else 0 }
  if (← showing l) == 0 then return false
  if l.hasEnds then modify fun s => { s with owesTitle := true }
  modify fun s => { s with inRow := false, onPage := false }
  let room := if l.double then 2 * l.lines else l.lines
  let left ← putRows l room (room + l.columns + 2)
  if left == 0 then
    changeAll fun c => { c with wasFull := c.wasFull || c.status == .ready }
  let s ← get
  if s.onPage && l.hasEnds then
    if l.feeds then putByte 12 else putMany (left + endLines).toNat 10
  else if l.keepsFeeds && s.owesFeed then
    putByte 12
    modify fun s => { s with owesFeed := false }
  modify fun s => { s with page := s.page + 1 }
  if l.lastPage.any (· < (← get).page) then return false
  release l
  return true

/-- Fills pages. The number bounds how many there are. -/
def putPages : Nat → Press Unit
  | 0 => return ()
  | fuel + 1 => do
    if ← putPage l then putPages fuel

/-! ## Pages that are not shown -/

/-- Passes over the bytes of a line, of which the next is given. -/
def passLine (i : Nat) (isLast : Bool) (byte : Option UInt8) : Nat → Press Unit
  | 0 => return ()
  | fuel + 1 => do
    match byte with
    | some 10 => return ()
    | some 12 =>
      if isLast then
        if l.parallel then change i fun c => { c with wasFull := false }
        else changeAll fun c => { c with wasFull := false }
      skipBreak i
      hold l i
    | none => close l i
    | some _ => passLine i isLast (← take i) fuel

def skipLine (i : Nat) (isLast : Bool) : Press Unit := do
  let first ← firstByte i
  if isLast then change i fun c => { c with wasFull := true }
  passLine l i isLast first (← remaining i)
  if l.countsSkipped && (!l.parallel || i == 0) && first != some 12 then
    modify fun s => { s with firstNumber := s.firstNumber + 1 }

/-- Passes over rows, while there is something to read. -/
def skipRows (n : Nat) : Press Unit := do
  match n with
  | 0 => return ()
  | n + 1 =>
    if (← get).columns.any (·.status == .ready) then
      for i in List.range l.columns do
        if (← column i).status == .ready then skipLine l i (n == 0)
      skipRows n

/-- Passes over pages in front of the first that is shown. If there are not so many, the answer is
how many there are. -/
def skipPages (done : Nat) : Nat → Press (Option Nat)
  | 0 => return none
  | n + 1 => do
    skipRows l l.lines
    if l.stores then
      changeAll fun c => { c with status := if c.status == .closed then .closed else .held }
    release l
    if (← get).ready < 1 then return some (done + 1)
    if !(← get).columns.any (·.status == .ready) then return none
    skipPages (done + 1) n

end Pages
end PipeShell.Host.Tool
