import PipeShell.Host.Tool.Amount
import PipeShell.Host.Tool.Options

/-! # The tool `fmt`

Lines with the same indentation are a paragraph, whose words are set into new lines. Among all ways
to break it the cheapest is taken: lines should come near to a length, be alike, and end where
sentences end. -/

namespace PipeShell.Host.Tool

namespace Paragraphs

structure Wanted where
  /-- Whether the first line of a paragraph may be indented in another way than the second. -/
  isCrown : Bool := false
  /-- Whether the first line of a paragraph must be indented in another way than the second. -/
  isTagged : Bool := false
  /-- Whether each line is a paragraph of its own. -/
  splits : Bool := false
  /-- Whether words stand one blank apart, and sentences two. -/
  isUniform : Bool := false
  /-- How far in front of the prefix lines must be indented. -/
  lead : Nat := 0
  /-- What each line of a paragraph begins with, which is shown again in front of it. -/
  prefix_ : List Char := []
  /-- How many blanks stand behind the prefix. -/
  prefixBlanks : Nat := 0
  width : Nat := 75
  goal : Nat := 0

namespace Wanted

variable (w : Wanted)

def wholePrefix : Nat := w.prefix_.length + w.prefixBlanks

end Wanted

structure Word where
  text : List Char
  /-- The blanks behind it. -/
  space : Nat := 1
  opens : Bool := false
  /-- Whether a full stop ends it, perhaps in brackets or quotes. -/
  stops : Bool := false
  /-- Whether it ends in any punctuation. -/
  isPunctuated : Bool := false
  /-- Whether it ends a sentence. -/
  isFinal : Bool := false
  deriving Inhabited

namespace Word

variable (t : Word)

def length : Nat := t.text.length

end Word

def openers : List Char := "([\x27\x60\"\x00".toList

def closers : List Char := ")]\x27\"\x00".toList

def stops : List Char := ".?!\x00".toList

def isPunctuation (c : Char) : Bool := 33 ≤ c.toNat && c.toNat < 127 && !c.isAlphanum

def wordOf (text : List Char) : Word :=
  let last := text.getLast?.getD ' '
  let core := match text with
    | [] => none
    | c :: cs => (cs.reverse.dropWhile closers.contains).head?.getD c |> some
  { text
    opens := (text.head?.map openers.contains).getD false
    isPunctuated := isPunctuation last
    stops := (core.map stops.contains).getD false }

/-! ## Breaking lines -/

/-- The best way to go on from a word: where the next line begins, how long this one is, and what all
lines from here on cost. -/
structure Break where
  next : Nat := 0
  length : Nat := 0
  cost : Int := 0
  deriving Inhabited

def square (n : Int) : Int := n * n

/-- What a line costs that is so much too long or too short. -/
def shortCost (n : Int) : Int := square (n * 10)

/-- What it costs that two lines differ by so much. -/
def raggedCost (n : Int) : Int := shortCost n / 2

/-- How a paragraph is indented, and how long the line in front of it is. -/
structure Frame where
  first : Nat
  other : Nat
  last : Nat
  width : Nat
  goal : Nat

/-- What it costs to begin a line at a word. -/
def baseCost (words : Array Word) (i : Nat) : Int :=
  let word := words.getD i default
  let before := words.getD (i - 1) default
  let behind : Int :=
    if i == 0 then 0
    else if before.stops then (if before.isFinal then -square 50 else square 600)
    else if before.isPunctuated then -square 40
    else if 1 < i && (words.getD (i - 2) default).isFinal then square 200 / (before.length + 2)
    else 0
  let here : Int :=
    if word.opens then -square 40
    else if word.isFinal then square 150 / (word.length + 2)
    else 0
  square 70 + behind + here

/-- What a line of a length costs with the next one at `i`. `breakAt` knows the lines behind. -/
def lineCost (frame : Frame) (count : Nat) (breakAt : Nat → Break) (i length : Nat) : Int :=
  if i == count then 0
  else
    let next := breakAt i
    let ragged := if next.next == count then 0 else raggedCost ((length : Int) - next.length)
    shortCost ((frame.goal : Int) - length) + ragged

/-- Tries to end the line before each word from `i` on, for as long as the line is not too long. -/
def bestFrom (frame : Frame) (words : Array Word) (breakAt : Nat → Break) (start i length : Nat)
    (best : Option Break) : Nat → Break
  | 0 => best.getD {}
  | fuel + 1 =>
    let count := words.size
    let plain := lineCost frame count breakAt i length + (if i == count then 0 else (breakAt i).cost)
    let cost :=
      if start == 0 && 0 < frame.last then plain + raggedCost ((length : Int) - frame.last) else plain
    let best : Break := match best with
      | some b => if cost < b.cost then ⟨i, length, cost⟩ else b
      | none => ⟨i, length, cost⟩
    if i == count then best
    else
      let length := length + (words.getD (i - 1) default).space + (words.getD i default).length
      if length < frame.width then bestFrom frame words breakAt start (i + 1) length (some best) fuel
      else best

/-- The best breaks for the last `k` words, last word first. -/
def breaksFrom (frame : Frame) (words : Array Word) : Nat → Array Break
  | 0 => #[]
  | k + 1 =>
    let behind := breaksFrom frame words k
    let start := words.size - (k + 1)
    let breakAt (i : Nat) : Break := behind.getD (words.size - 1 - i) {}
    let length := (if start == 0 then frame.first else frame.other) + (words.getD start default).length
    let best := bestFrom frame words breakAt start (start + 1) length none (words.size + 1)
    behind.push { best with cost := best.cost + baseCost words start }

/-- The best break for each word. -/
def breaks (frame : Frame) (words : Array Word) : Array Break :=
  (breaksFrom frame words words.size).reverse

/-! ## Output -/

/-- Where writing stands. -/
structure Sheet where
  out : ByteArray := .empty
  column : Nat := 0
  /-- Whether blanks may be written as tabulators, because some were read. -/
  tabs : Bool := false

namespace Sheet

variable (s : Sheet)

def add (text : List Char) : Sheet :=
  { s with out := s.out ++ ByteText.toBytes (String.ofList text), column := s.column + text.length }

/-- Adds what does not count for the column. -/
def addBeside (text : List Char) : Sheet :=
  { s with out := s.out ++ ByteText.toBytes (String.ofList text) }

def newLine : Sheet := { s.addBeside ['\n'] with column := 0 }

def tabWidth : Nat := 8

/-- Adds as much blank space, with as few characters as can be. -/
def space (n : Nat) : Sheet :=
  let target := s.column + n
  let stop := target / tabWidth * tabWidth
  let s := if s.tabs && s.column + 1 < stop then
      let count := stop / tabWidth - s.column / tabWidth
      { s.addBeside (List.replicate count '\t') with column := stop }
    else s
  s.add (List.replicate (target - s.column) ' ')

end Sheet

/-! ## Input -/

/-- What is left to read, which begins with the character that is looked at, and what is known of the
paragraph that is read. -/
structure State where
  rest : List Char
  sheet : Sheet := {}
  /-- The column of the character that is looked at. -/
  column : Nat := 0
  /-- How far the prefix of the line that is looked at is indented. -/
  indent : Nat := 0
  prefixIndent : Nat := 0
  first : Nat := 0
  other : Nat := 0
  /-- How long the last line is that was written of this paragraph. -/
  last : Nat := 0
  words : Array Word := #[]
  /-- How many characters all words have, and those of a word that is being read, in reverse. -/
  size : Nat := 0
  pending : List Char := []

variable (w : Wanted)

def State.isAtEnd (s : State) : Bool := s.rest.isEmpty || s.rest.head? == some '\n'

/-- Passes blanks and keeps the column. -/
def skipBlanks (s : State) : State :=
  let rec go (column : Nat) (tabs : Bool) : List Char → Nat × Bool × List Char
    | ' ' :: cs => go (column + 1) tabs cs
    | '\t' :: cs => go ((column / Sheet.tabWidth + 1) * Sheet.tabWidth) true cs
    | cs => (column, tabs, cs)
  let (column, tabs, rest) := go s.column s.sheet.tabs s.rest
  { s with column, rest, sheet := { s.sheet with tabs } }

/-- Passes the prefix, up to where the line differs from it. -/
def matchPrefix : List Char → State → State × Bool
  | [], s => (s, true)
  | c :: cs, s => match s.rest with
    | d :: rest => if c == d then matchPrefix cs { s with rest, column := s.column + 1 } else (s, false)
    | [] => (s, false)

/-- Goes to the first character of a line that is not blank behind the prefix. -/
def startLine (s : State) : State :=
  let s := skipBlanks { s with column := 0 }
  if w.prefix_.isEmpty then { s with indent := min w.lead s.column }
  else match matchPrefix w.prefix_ { s with indent := s.column } with
    | (s, true) => skipBlanks s
    | (s, false) => s

/-- Passes on a line that belongs to no paragraph. -/
def copyRest (s : State) : State :=
  let sheet := { s.sheet with column := 0 }
  let sheet := if s.indent < s.column || !s.isAtEnd then
      let sheet := sheet.space s.indent
      let sheet := sheet.add (w.prefix_.take (s.column - sheet.column))
      let sheet := if s.isAtEnd then sheet else sheet.space (s.column - sheet.column)
      if s.rest.isEmpty && s.indent + w.prefix_.length ≤ s.column then sheet.addBeside ['\n'] else sheet
    else sheet
  let (line, rest) := s.rest.span (· != '\n')
  { s with sheet := sheet.addBeside line, rest }

/-- Whether the line that is looked at may go on with the paragraph. -/
def State.goesOn (s : State) : Bool :=
  s.indent == s.prefixIndent && s.indent + w.wholePrefix ≤ s.column && !s.isAtEnd

/-- The column of the lines after the first one that is taken for an indentation of its own. -/
def defaultIndent : Nat := 3

/-- Settles how the lines after the first one are indented. -/
def settleOther (goesOn : Bool) (s : State) : State :=
  let other :=
    if w.splits then s.first
    else if w.isCrown then (if goesOn then s.column else s.first)
    else if w.isTagged then
      if goesOn && s.column != s.first then s.column
      else if s.other == s.first then (if s.first == 0 then defaultIndent else 0)
      else s.other
    else s.first
  { s with other }

/-! ## Paragraphs -/

def putLine (s : State) (from_ next indent : Nat) : State :=
  let sheet := ({ s.sheet with column := 0 }.space s.prefixIndent).add w.prefix_
  let sheet := sheet.space (indent - sheet.column)
  let sheet := (List.range (next - from_)).foldl (fun (sheet : Sheet) k =>
    let word := s.words.getD (from_ + k) default
    let sheet := sheet.add word.text
    if from_ + k + 1 == next then sheet else sheet.space word.space) sheet
  { s with sheet := sheet.newLine, last := sheet.column }

/-- Writes lines from a word up to another. -/
def putLines (found : Array Break) (s : State) (i stop indent : Nat) : Nat → State
  | 0 => s
  | fuel + 1 =>
    if i == stop then s
    else
      let next := (found.getD i default).next
      putLines found (putLine w s i next indent) next stop s.other fuel

def State.frame (s : State) : Frame := ⟨s.first, s.other, s.last, w.width, w.goal⟩

def putParagraph (s : State) : State :=
  putLines w (breaks (s.frame w) s.words) s 0 s.words.size s.first (s.words.size + 1)

/-- Where a paragraph that is too long to be kept is best cut: at a cheap line, rather near its end. -/
def cutAt (found : Array Break) (count i : Nat) (best : Nat × Option Int) : Nat → Nat
  | 0 => best.1
  | fuel + 1 =>
    if i == count then best.1
    else
      let next := (found.getD i default).next
      let cost := (found.getD i default).cost - (if next == count then 0 else (found.getD next default).cost)
      let (at_, limit) := match best.2 with
        | some limit => if cost < limit then (i, cost) else (best.1, limit)
        | none => (i, cost)
      cutAt found count next (at_, some (limit + 9)) fuel

/-- Writes a part of a paragraph that is too long to be kept. -/
def flush (s : State) : State :=
  if s.words.isEmpty then
    { s with sheet := s.sheet.addBeside s.pending.reverse, pending := [], size := 0 }
  else
    let count := s.words.size
    let found := breaks (s.frame w) s.words
    let cut := cutAt found count (found.getD 0 default).next (count, none) (count + 1)
    let s := putLines w found s 0 cut s.first (count + 1)
    let gone := ((s.words.extract 0 cut).map Word.length).foldl (· + ·) 0
    { s with words := s.words.extract cut count, size := s.size - gone }

def maxWords : Nat := 1000

def maxSize : Nat := 5000

/-- Reads the characters of a word. -/
def readWord (s : State) : List Char → State
  | [] => { s with rest := [] }
  | c :: cs =>
    let s := if s.size == maxSize then flush w (settleOther w true s) else s
    let s := { s with pending := c :: s.pending, size := s.size + 1 }
    match cs with
    | d :: _ =>
      if d == ' ' || (9 ≤ d.toNat && d.toNat ≤ 13) then { s with rest := cs } else readWord s cs
    | [] => { s with rest := [] }

/-- Reads the words of a line and goes to the next line. The number bounds how many words there
are. -/
def readLine (s : State) : Nat → State
  | 0 => s
  | fuel + 1 =>
    let s := readWord w { s with pending := [] } s.rest
    let word := wordOf s.pending.reverse
    let s := { s with column := s.column + word.length }
    let start := s.column
    let s := skipBlanks s
    let space := s.column - start
    let isFinal := s.rest.isEmpty || (word.stops && (s.isAtEnd || 1 < space))
    let space := if s.isAtEnd || w.isUniform then (if isFinal then 2 else 1) else space
    let s := if s.words.size == maxWords - 2 then flush w (settleOther w true s) else s
    let s := { s with words := s.words.push { word with space, isFinal }, pending := [] }
    if s.isAtEnd then startLine w { s with rest := s.rest.drop 1 } else readLine s fuel

/-- Reads lines for as long as `goesOn` says. -/
def readWhile (goesOn : State → Bool) (s : State) : Nat → State
  | 0 => s
  | fuel + 1 => if goesOn s then readWhile goesOn (readLine w s (s.rest.length + 1)) fuel else s

/-- Reads the lines of a paragraph, the first of which is looked at. -/
def readParagraph (s : State) : State :=
  let s := { s with prefixIndent := s.indent, first := s.column, words := #[], size := 0, pending := [] }
  let s := readLine w s (s.rest.length + 1)
  let s := settleOther w (s.goesOn w) s
  let another (s : State) : Bool := s.goesOn w && s.column == s.other
  let many := s.rest.length + 1
  let s :=
    if w.splits then s
    else if w.isCrown then
      if s.goesOn w then readWhile w another (readLine w s many) many else s
    else if w.isTagged then
      if s.goesOn w && s.column != s.first then readWhile w another (readLine w s many) many else s
    else readWhile w another s many
  { s with words := s.words.modify (s.words.size - 1) fun t => { t with stops := true, isFinal := true } }

/-- Whether the line that is looked at cannot begin a paragraph. -/
def State.isBare (s : State) : Bool :=
  s.isAtEnd || s.indent < w.lead || s.column < s.indent + w.wholePrefix

/-- Sets all that is left. The number bounds how many lines there are. -/
def setAll (s : State) : Nat → ByteArray
  | 0 => s.sheet.out
  | fuel + 1 =>
    if s.isBare w then
      let s := copyRest w s
      if s.rest.isEmpty then s.sheet.out
      else setAll (startLine w { s with sheet := s.sheet.newLine, rest := s.rest.drop 1 }) fuel
    else setAll (putParagraph w (readParagraph w { s with last := 0 })) fuel

/-- A text with its paragraphs set anew. -/
def formatted (bytes : ByteArray) : ByteArray :=
  let rest := (ByteText.ofBytes bytes).toList
  setAll w (startLine w { rest }) (2 * rest.length + 2)

/-! ## Options -/

def addPrefix (w : Wanted) (text : String) : Wanted :=
  let cs := text.toList
  let whole := cs.dropWhile (· == ' ')
  let trimmed := (whole.reverse.dropWhile (· == ' ')).reverse
  { w with
    lead := cs.length - whole.length, prefix_ := trimmed
    prefixBlanks := whole.length - trimmed.length }

def maxWidth : Nat := 2500

def widthOf (most : Nat) (text : String) : Tool Nat := do
  return (← amountWithin false "" 0 most "invalid width" text).toNat

end Paragraphs

open Paragraphs in
def fmt (call : Call) : Tool Nat := do
  let (early, words) : Option String × List String := match call.operands with
    | first :: rest => match first.toList with
      | '-' :: c :: cs =>
        if c.isDigit then (some (String.ofList (c :: cs)), rest) else (none, call.operands)
      | _ => (none, call.operands)
    | [] => (none, [])
  let check (given : Given) : Tool Unit := do
    if given.1.toList.all Char.isDigit then
      misuse 1 ("invalid option -- " ++ given.1 ++
        "; -WIDTH is recognized only when it is the first\noption; use -w N instead")
  let p ← parseWith ([.letter 'c' "crown-margin" .none, .letter 'p' "prefix" .required,
    .letter 's' "split-only" .none, .letter 't' "tagged-paragraph" .none,
    .letter 'u' "uniform-spacing" .none, .letter 'w' "width" .required,
    .letter 'g' "goal" .required] ++ Switch.ofLetters "0123456789") false 1 words check
  let saidWidth := (p.last? "w").or early
  let width ← match saidWidth with
    | some text => widthOf maxWidth text
    | none => pure 75
  let (width, goal) ← match p.last? "g" with
    | some text => do
      let goal ← widthOf width text
      pure (if saidWidth.isNone then goal + 10 else width, goal)
    | none => pure (width, width * (2 * (100 - 7) + 1) / 200)
  let w : Wanted := {
    isCrown := p.has "c", isTagged := p.has "t", splits := p.has "s", isUniform := p.has "u", width, goal }
  let w := match p.last? "p" with
    | some text => addPrefix w text
    | none => w
  let mut code := 0
  for name in orInput p.operands do
    match ← openOperand name with
    | .error e =>
      warnOf ("cannot open " ++ shellQuoted name ++ " for reading") e
      code := 1
    | .ok fd =>
      let (bytes, failure) ← readWhole fd
      put (formatted w bytes)
      closeOperand fd
      if failure.isSome then
        warn "read error"
        code := 1
  return code

end PipeShell.Host.Tool
