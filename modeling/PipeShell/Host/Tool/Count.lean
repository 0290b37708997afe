import PipeShell.Host.Tool.Concatenate
import PipeShell.Host.Tool.NameList
import PipeShell.Text.Width

/-! # The tool `wc`

It counts lines, words, characters and bytes, and measures the widest line. -/

namespace PipeShell.Host.Tool

structure Counts where
  lines : Nat := 0
  words : Nat := 0
  chars : Nat := 0
  bytes : Nat := 0
  /-- The columns of the widest line. -/
  widest : Nat := 0

namespace Counts

/-- Counts on the way through an input. -/
structure State where
  counts : Counts := {}
  inWord : Bool := false
  column : Nat := 0
  /-- Bytes that may be part of a character whose other bytes have not been read. -/
  left : List Char := []

def endLine (s : State) : State :=
  { s with counts := { s.counts with widest := max s.counts.widest s.column }, column := 0 }

def endWord (s : State) : State :=
  if s.inWord then
    { s with counts := { s.counts with words := s.counts.words + 1 }, inWord := false }
  else s

/-- Counts a byte. Only bytes that can be printed make a word. -/
def step (s : State) (b : UInt8) : State :=
  if b == 10 then
    let s := endLine (endWord s)
    { s with counts := { s.counts with lines := s.counts.lines + 1 } }
  else if b == 13 || b == 12 then endLine (endWord s)
  else if b == 9 then endWord { s with column := s.column + (8 - s.column % 8) }
  else if b == 32 then endWord { s with column := s.column + 1 }
  else if b == 11 then endWord s
  else if 32 < b && b < 127 then { s with inWord := true, column := s.column + 1 }
  else s

/-- Blanks beyond those of ASCII that end a word. -/
def blankRanges : Text.Ranges := #[(0x1680, 0x1680), (0x2000, 0x2006), (0x2008, 0x200A),
  (0x2028, 0x2029), (0x205F, 0x205F), (0x3000, 0x3000)]

/-- Blanks at which no line may be broken; they end a word, too, unless tools are strict. -/
def firmBlankRanges : Text.Ranges := #[(0xA0, 0xA0), (0x2007, 0x2007), (0x202F, 0x202F),
  (0x2060, 0x2060)]

/-- Counts a character beyond those of ASCII. -/
def stepWide (isStrict : Bool) (s : State) (c : Char) : State :=
  if !Encoding.shows c then s
  else
    let s := { s with column := s.column + Text.width c }
    if blankRanges.has c || (!isStrict && firmBlankRanges.has c) then endWord s
    else { s with inWord := true }

/-- Counts the characters of bytes in UTF-8. A byte that is part of none is none. Unless these are
the last bytes, those at the end that may be part of one are left. The number bounds how many
characters there are. -/
def countChars (isStrict isLast : Bool) (s : State) (cs : List Char) : Nat → State
  | 0 => s
  | fuel + 1 => match cs with
    | [] => s
    | _ :: rest => match Encoding.first? cs with
      | some (char, size) =>
        let s := { s with counts := { s.counts with chars := s.counts.chars + 1 } }
        let s := if size == 1 then step s (Encoding.toByte char) else stepWide isStrict s char
        countChars isStrict isLast s (cs.drop size) fuel
      | none =>
        if !isLast && (cs.drop 3).isEmpty then { s with left := cs }
        else countChars isStrict isLast s rest fuel

/-- Counts a block. -/
def countBlock (encoding : Encoding) (isStrict : Bool) (s : State) (block : ByteArray) : State :=
  let bytes := s.counts.bytes + block.size
  match encoding with
  | .bytes =>
    let s := block.foldl step s
    { s with counts := { s.counts with bytes, chars := bytes } }
  | .utf8 =>
    let cs := s.left ++ (ByteText.ofBytes block).toList
    let s := countChars isStrict false { s with left := [] } cs cs.length
    { s with counts := { s.counts with bytes } }

def finish (isStrict : Bool) (s : State) : Counts :=
  (endLine (endWord (countChars isStrict true s s.left s.left.length))).counts

def add (a b : Counts) : Counts :=
  { lines := a.lines + b.lines, words := a.words + b.words, chars := a.chars + b.chars
    bytes := a.bytes + b.bytes, widest := max a.widest b.widest }

/-- The numbers that are asked for by letters. -/
def chosen (letters : List String) (k : Counts) : List Nat :=
  (if letters.contains "l" then [k.lines] else []) ++
  (if letters.contains "w" then [k.words] else []) ++
  (if letters.contains "m" then [k.chars] else []) ++
  (if letters.contains "c" then [k.bytes] else []) ++
  (if letters.contains "L" then [k.widest] else [])

def line (letters : List String) (width : Nat) (name : Option String) (k : Counts) : Message :=
  let numbers := (k.chosen letters).map fun n => rightAligned width (toString n)
  let shown : Message := match name with
    | none => ""
    | some name => " " ++ (if name.toList.contains '\n' then quoteName name else name)
  " ".intercalate numbers ++ shown ++ "\n"

/-- Whether the system gives a file as many bytes as it takes blocks for. -/
def fillsPages (size : Nat) : Bool := size % 4096 == 0

/-- Counts what can be read. To count only bytes a file need not be read. -/
def ofDescriptor (letters : List String) (fd : Nat) : Tool (Counts × Option Errno) := do
  let ⟨_, encoding, isStrict, _⟩ ← get
  let onlyBytes := letters.all fun l => l == "c" || (l == "m" && encoding = .bytes)
  let size ← if onlyBytes then do
      pure ((← regularAt? fd).map fun (_, bytes, position) => (bytes.size, position))
    else pure none
  let read : Tool (Counts × Option Errno) := do
    let (s, failure) ← forBlocks fd Act.blockSize
      (fun s block => return (countBlock encoding isStrict s block, false)) ({} : State) Act.manyReads
    return (finish isStrict s, failure)
  match size with
  | some (size, position) =>
    if fillsPages size then read
    else return ({ bytes := size - position, chars := size - position }, none)
  | none => read

end Counts

/-- How wide numbers have to be: as the number of all bytes in files, but not narrow if something
else is read. -/
def countWidth (letters : List String) (names : List String) : Tool Nat := do
  if names.length ≤ 1 && letters.length == 1 then return 1
  let mut total := 0
  let mut least := 1
  for name in names do
    let size : Option (Option Nat) ← if name == "-" then do
        pure (some ((← regularAt? 0).map fun (_, bytes, _) => bytes.size))
      else files fun fs cwd => match fs.resolve cwd name true with
        | .ok i => some ((fs.fileContent? i).map (·.size))
        | .error _ => none
    match size with
    | some (some n) => total := total + n
    | some none => least := 7
    | none => pure ()
  return max least (toString total).length

def wc (call : Call) : Tool Nat := do
  let p ← parse [.letter 'c' "bytes" .none, .letter 'm' "chars" .none, .letter 'l' "lines" .none,
    .letter 'w' "words" .none, .letter 'L' "max-line-length" .none,
    ⟨"files0", "files0-from", .required⟩] false 1 call.operands
  let asked := ["l", "w", "m", "c", "L"].filter p.has
  let letters := if asked.isEmpty then ["l", "w", "c"] else asked
  let list ← (p.last? "files0").mapM (NameList.read · p.operands)
  let names := match list with
    | some list => list.names
    | none => orInput p.operands
  let width ← match list with
    | some list => if list.isKnown then countWidth letters names else pure 1
    | none => countWidth letters names
  if let some list := list then
    if list.isKnown && list.failure.isSome then
      fail 1 ("cannot read file names from " ++ shellQuoted list.source)
  let mut total : Counts := {}
  let mut code := 0
  for (name, i) in names.zipIdx do
    let isGood ← match list with
      | some list => list.accepts name (i + 1)
      | none => do
        if name.isEmpty then warn "invalid zero-length file name"
        pure !name.isEmpty
    if !isGood then code := 1
    else match ← openOperand name with
      | .error e =>
        warnOf (quoteName name) e
        code := 1
      | .ok fd =>
        let (counts, failure) ← Counts.ofDescriptor letters fd
        closeOperand fd
        if let some e := failure then
          warnOf (quoteName name) e
          code := 1
        let shown := if list.isNone && p.operands.isEmpty then none else some name
        print (counts.line letters width shown)
        total := total.add counts
  if let some { source, failure := some e, .. } := list then
    warnOf (quoteName source ++ ": read error") e
    code := 1
  if 1 < names.length then print (total.line letters width (some "total"))
  return code

end PipeShell.Host.Tool
