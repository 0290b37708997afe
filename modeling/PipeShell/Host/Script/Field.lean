import PipeShell.Host.Script.Pattern

/-! # Fields

What a word expands to before it is split: characters, each quoted or not, places where quoting
begins or ends, and breaks between positional parameters. Only what substitutions bring is split,
so it is kept which regions those are. -/

namespace PipeShell.Host.Script

inductive Cell where
  | char (c : Char) (quoted : Bool)
  /-- Quoting begins or ends here, so that even an empty text is a field. -/
  | mark
  /-- A break between positional parameters. -/
  | gap
  deriving DecidableEq, Repr

/-- A part that may be split. -/
structure Region where
  start : Nat
  stop : Nat
  /-- It is split at gaps and nowhere else. -/
  onlyGaps : Bool

/-- An expansion as far as it has come. -/
structure Building where
  cells : Array Cell := #[]
  regions : Array Region := #[]

namespace Building

def add (cell : Cell) (b : Building) : Building := { b with cells := b.cells.push cell }

def addText (text : String) (quoted : Bool) (b : Building) : Building :=
  { b with cells := text.foldl (fun cells c => cells.push (.char c quoted)) b.cells }

/-- Lets what has come since a place be split. -/
def record (start : Nat) (onlyGaps : Bool) (b : Building) : Building :=
  { b with regions := b.regions.push ⟨start, b.cells.size, onlyGaps⟩ }

/-- Takes back everything since a place. -/
def truncate (size regions : Nat) (b : Building) : Building :=
  ⟨b.cells.extract 0 size, b.regions.extract 0 regions⟩

end Building

/-- The characters of cells. -/
def textOf (cells : List Cell) : String :=
  String.ofList (cells.filterMap fun
    | .char c _ => some c
    | _ => none)

/-- The cells as a pattern. Between marks all characters are quoted. -/
def patternOf (inside : Bool) : List Cell → Pattern
  | [] => []
  | .mark :: cells => patternOf (!inside) cells
  | .gap :: cells => patternOf inside cells
  | .char c quoted :: cells => (c, quoted || inside) :: patternOf inside cells

/-- Where splitting stands. -/
structure Splitting where
  /-- Where the field begins that is being looked at. -/
  start : Nat := 0
  /-- Only blanks have come since the last field. -/
  inBlanks : Bool := false
  onlyGaps : Bool := false
  afterGaps : Bool := false
  fields : Array (List Cell) := #[]
  /-- How many more fields there are to be, if that is limited. -/
  left : Option Nat := none
  /-- From where on the last field is to be cut off. -/
  cut : Option Nat := none

def isBlankSeparator (cell : Cell) : Bool :=
  match cell with
  | .gap => true
  | .char c _ => c == ' ' || c == '\t' || c == '\n'
  | .mark => false

def isSeparator (separators : List Char) (onlyGaps : Bool) (cell : Cell) : Bool :=
  match cell with
  | .gap => true
  | .char c _ => !onlyGaps && separators.contains c
  | .mark => false

/-- Looks at the cell at a place of a region. -/
def Splitting.step (separators : List Char) (cells : Array Cell) (s : Splitting) (i : Nat) : Splitting :=
  let cell := cells.getD i .mark
  let separates := isSeparator separators s.onlyGaps cell
  let isBlank := separates && isBlankSeparator cell
  if s.left == some 0 then
    if isBlank then { s with cut := s.cut.or (some i) }
    else { s with cut := if separates && s.inBlanks then s.cut else none, inBlanks := false }
  else
    let wasInBlanks := s.inBlanks
    let s := if wasInBlanks then { s with start := if separates then i + 1 else i } else s
    if wasInBlanks && isBlank then s
    else if wasInBlanks || !separates then { s with inBlanks := false }
    else
      let inBlanks := if s.afterGaps || s.onlyGaps then s.inBlanks else isBlank
      if i == s.start && inBlanks then { s with start := i + 1, inBlanks := false }
      else
        let left := s.left.map (· - 1)
        if left == some 0 then { s with left, inBlanks, cut := some i }
        else
          { s with
            left, inBlanks, start := i + 1
            fields := s.fields.push (cells.extract s.start i).toList }

/-- Splits an expansion into fields, into at most so many if a number is given; the last one then
takes all that is left. -/
def Building.fields (b : Building) (separators : List Char) (most : Option Nat) : List (List Cell) :=
  let s := b.regions.foldl
    (fun (s : Splitting) region =>
      let s := { s with afterGaps := s.onlyGaps, onlyGaps := region.onlyGaps, inBlanks := false }
      (List.range (region.stop - region.start)).foldl
        (fun s i => s.step separators b.cells (region.start + i)) s)
    { left := most }
  let stop := s.cut.getD b.cells.size
  let last := (b.cells.extract s.start stop).toList
  let isLast := s.onlyGaps || s.start < stop
  if isLast then s.fields.toList ++ [last] else s.fields.toList

end PipeShell.Host.Script
