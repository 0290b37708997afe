import PipeShell.Host.Tool.Options
import PipeShell.Host.Tool.Regular

/-! # Passing input on

Tools that write what they read: as it stands, with marks, or with its lines or characters turned
round. -/

namespace PipeShell.Host.Tool

/-! ## `cat` -/

/-- How what is passed on is marked. -/
structure Marking where
  numbers : Bool := false
  /-- Only lines that are not empty are numbered. -/
  numbersFilled : Bool := false
  ends : Bool := false
  tabs : Bool := false
  /-- Whether characters that cannot be printed are shown by others. -/
  controls : Bool := false
  /-- One of several empty lines in a row is enough. -/
  squeezes : Bool := false
  deriving DecidableEq

/-- Where marking stands. -/
structure MarkingState where
  /-- How many line breaks have come in a row, from zero on; -1 within a line. -/
  breaks : Int := 0
  lines : Nat := 0
  /-- Whether a carriage return has not been passed on yet. -/
  returns : Bool := false

def rightAligned (width : Nat) (text : String) : String :=
  String.ofList (List.replicate (width - text.length) ' ') ++ text

/-- A byte as it is shown if it cannot be printed. -/
def shownByte (b : UInt8) : String :=
  let low (n : Nat) : String :=
    if n < 32 then String.ofList ['^', Char.ofNat (n + 64)]
    else if n < 127 then String.ofList [Char.ofNat n]
    else "^?"
  if b.toNat < 128 then low b.toNat else "M-" ++ low (b.toNat - 128)

namespace Marking

def numbered (s : MarkingState) (out : ByteArray) : MarkingState × ByteArray :=
  let s := { s with lines := s.lines + 1 }
  (s, out ++ (rightAligned 6 (toString s.lines) ++ "\t").toUTF8)

/-- Passes one byte on. -/
def pass (m : Marking) (state : MarkingState × ByteArray) (b : UInt8) : MarkingState × ByteArray :=
  let (s, out) := state
  let (s, out) := if s.returns then
      ({ s with returns := false }, if b == 10 then out ++ "^M".toUTF8 else out.push 13)
    else (s, out)
  if b == 10 then
    let breaks := min 2 (s.breaks + 1)
    if m.squeezes && breaks == 2 then ({ s with breaks }, out)
    else
      let (s, out) := if m.numbers && !m.numbersFilled && 0 < breaks then numbered s out else (s, out)
      ({ s with breaks }, (if m.ends then out.push 36 else out).push 10)
  else
    let (s, out) := if m.numbers && 0 ≤ s.breaks then numbered s out else (s, out)
    let s := { s with breaks := -1 }
    if b == 9 then (s, if m.tabs then out ++ "^I".toUTF8 else out.push 9)
    else if m.controls then (s, out ++ (shownByte b).toUTF8)
    else if b == 13 && m.ends then ({ s with returns := true }, out)
    else (s, out.push b)

end Marking

def markingOf (p : Parsed) : Marking where
  numbers := p.hasAny ["n", "b"]
  numbersFilled := p.has "b"
  ends := p.hasAny ["E", "e", "A"]
  tabs := p.hasAny ["T", "t", "A"]
  controls := p.hasAny ["v", "e", "t", "A"]
  squeezes := p.has "s"

/-- Whether all that is written to the output would be read again. -/
def readsItself (fd : Nat) : Tool Bool := do
  match ← regularAt? fd, ← regularAt? 1 with
  | some (i, bytes, position), some (j, _, _) => return i == j && position < bytes.size
  | _, _ => return false

/-- Passes all of a descriptor on. -/
def passOn (m : Marking) (fd : Nat) (s : MarkingState) : Tool (MarkingState × Option Errno) := do
  let step (s : MarkingState) (block : ByteArray) : Tool (MarkingState × Bool) := do
    let (s, out) := if m = {} then (s, block) else block.foldl m.pass (s, .empty)
    put out
    flush
    return (s, false)
  forBlocks fd Act.blockSize step s Act.manyReads

def cat (call : Call) : Tool Nat := do
  let p ← parse [.letter 'A' "show-all" .none, .letter 'b' "number-nonblank" .none,
    .letter 'e' "" .none, .letter 'E' "show-ends" .none, .letter 'n' "number" .none,
    .letter 's' "squeeze-blank" .none, .letter 't' "" .none, .letter 'T' "show-tabs" .none,
    .letter 'u' "" .none, .letter 'v' "show-nonprinting" .none] false 1 call.operands
  let m := markingOf p
  let mut s : MarkingState := {}
  let mut code := 0
  for name in orInput p.operands do
    match ← openOperand name with
    | .error e =>
      warnOf (quoteName name) e
      code := 1
    | .ok fd =>
      if ← readsItself fd then
        warn (quoteName name ++ ": input file is output file")
        code := 1
      else
        let (next, failure) ← passOn m fd s
        s := next
        if let some e := failure then
          warnOf (quoteName name) e
          code := 1
      closeOperand fd
  if s.returns then put ⟨#[13]⟩
  return code

/-! ## `tac` -/

/-- Where a separator stands in bytes, last place first, none in another. -/
def placesOf (separator bytes : ByteArray) : List Nat :=
  let size := separator.size
  let matchesAt (i : Nat) : Bool :=
    (List.range size).all fun k => bytes.get! (i + k) == separator.get! k
  let (found, _) := (List.range (bytes.size + 1 - size)).foldr
    (fun i ((found, limit) : List Nat × Nat) =>
      if i + size ≤ limit && matchesAt i then (i :: found, i) else (found, limit))
    ([], bytes.size)
  found.reverse

/-- The parts that separators end, or begin, last part first. -/
def partsBackwards (begins : Bool) (separator bytes : ByteArray) : List ByteArray :=
  let (parts, stop) := (placesOf separator bytes).foldl
    (fun ((parts, stop) : List ByteArray × Nat) i =>
      let cut := if begins then i else i + separator.size
      if !begins && cut == bytes.size && parts.isEmpty then (parts, stop)
      else (bytes.extract cut stop :: parts, cut))
    ([], bytes.size)
  (bytes.extract 0 stop :: parts).reverse

/-- The places where an expression matches, last one first, with where each match ends. Each is
looked for in front of the one before it, as if the text ended there. The number bounds how many
there are. -/
def matchesBackwards (r : Regular) (text : Array Char) (limit : Nat) : Nat → List (Nat × Nat)
  | 0 => []
  | fuel + 1 =>
    let before := text.extract 0 limit
    let found := (List.range limit).reverse.findSome? fun i =>
      (r.matchAt? before i).map fun place => (i, place.position)
    match found with
    | some (i, stop) => (i, stop) :: matchesBackwards r text i fuel
    | none => []

/-- The parts that matches of an expression end, or begin, last part first. -/
def partsAround (begins : Bool) (r : Regular) (bytes : ByteArray) : List ByteArray :=
  let found := matchesBackwards r (ByteText.ofBytes bytes).toList.toArray bytes.size (bytes.size + 1)
  let (parts, stop, _) := found.foldl
    (fun ((parts, stop, isFirst) : List ByteArray × Nat × Bool) (i, matchEnd) =>
      let cut := if begins then i else matchEnd
      if !begins && isFirst && cut == stop then (parts, cut, false)
      else (bytes.extract cut stop :: parts, cut, false))
    ([], bytes.size, true)
  (bytes.extract 0 stop :: parts).reverse

def tac (call : Call) : Tool Nat := do
  let p ← parse [.letter 'b' "before" .none, .letter 'r' "regex" .none,
    .letter 's' "separator" .required] false 1 call.operands
  let given := ByteText.toBytes ((p.last? "s").getD "\n")
  if p.has "r" && given.isEmpty then fail 1 "separator cannot be empty"
  let separator : ByteArray := if given.isEmpty then ⟨#[0]⟩ else given
  let expression : Option Regular ←
    if !p.has "r" then pure none
    else match Regular.ofString? .editor (ByteText.ofBytes given) with
      | .ok (r, _) => pure (some r)
      | .error mistake => fail 1 mistake.message
  let parts : ByteArray → List ByteArray := match expression with
    | some r => partsAround (p.has "b") r
    | none => partsBackwards (p.has "b") separator
  let mut code := 0
  for name in orInput p.operands do
    let shown := if name == "-" then "standard input" else name
    match ← openOperand name with
    | .error e =>
      warnOf ("failed to open " ++ shellQuoted shown ++ " for reading") e
      code := 1
    | .ok fd =>
      let (bytes, failure) ← readWhole fd
      closeOperand fd
      match failure with
      | some e =>
        warnOf (quoteName shown ++ ": read error") (if e = .isDirectory then .invalidArgument else e)
        code := 1
      | none =>
        for part in parts bytes do put part
  return code

/-! ## `rev` -/

/-- The characters of a line, unless it holds a byte that is part of none. Bytes at the end of the
input that begin a character are passed over. -/
def charactersOf? (encoding : Encoding) (line : ByteText) (isLast : Bool) : Option (List Glyph) :=
  let (whole, rest) := (encoding.glyphs line).span (·.char.isSome)
  let isPassed := isLast && encoding = .utf8 && Encoding.isOpen (rest.flatMap (·.bytes))
  if rest.isEmpty || isPassed then some whole else none

/-- Turns lines round until one holds a byte that is part of no character, up to a zero in each; and
how many there were. Lines that are left are an error. -/
def reverseLines (encoding : Encoding) (ended : Bool) :
    List ByteArray → Nat → ByteArray → ByteArray × Nat × Bool
  | [], count, out => (out, count, true)
  | line :: rest, count, out =>
    let isLast := rest.isEmpty && !ended
    match charactersOf? encoding (ByteText.ofBytes line) isLast with
    | none => (out, count, false)
    | some glyphs =>
      let (shown, hidden) := glyphs.span (·.char != some '\x00')
      if isLast && glyphs.isEmpty && count == 0 then (out, count, false)
      else if shown.isEmpty && !hidden.isEmpty then reverseLines encoding ended rest count out
      else
        let bytes := ByteText.toBytes (String.ofList (shown.reverse.flatMap (·.bytes)))
        let out := if isLast || !hidden.isEmpty then out ++ bytes else (out ++ bytes).push 10
        reverseLines encoding ended rest (count + 1) out

def rev (call : Call) : Tool Nat := do
  let p ← parse [] false 1 call.operands
  let mut code := 0
  for name in (if p.operands.isEmpty then [none] else p.operands.map some) do
    let opened : Except Errno Nat ← match name with
      | none => pure (.ok 0)
      | some path => act (Act.openFile path { read := true })
    let shown := name.getD "stdin"
    match opened with
    | .error e =>
      warnOf ("cannot open " ++ shown) e
      code := 1
    | .ok fd =>
      let (bytes, failure) ← readWhole fd
      let (parts, ended) := linesOf 10 bytes
      let (out, lines, isAll) := reverseLines (← get).encoding ended parts.toList 0 .empty
      put out
      let failure := if isAll then failure else some ⟨84⟩
      if let some e := failure then
        warnOf (shown ++ ": " ++ toString lines) e
        code := 1
  return code

/-! ## `tee` -/

/-- A place that `tee` writes to. -/
structure Copy where
  name : String
  fd : Nat

/-- What a failure means: whether it ends the tool, and whether it is told if nobody reads a pipe. -/
structure Severity where
  isFatal : Bool
  tellsOfPipes : Bool
  deriving BEq

/-- The words for what is done when a place fails. -/
def severities : List (String × Severity) := [("warn", ⟨false, true⟩), ("warn-nopipe", ⟨false, false⟩),
  ("exit", ⟨true, true⟩), ("exit-nopipe", ⟨true, false⟩)]

/-- Writes a block everywhere; a place that fails is given up. -/
def copyBlock (severity : Option Severity) (block : ByteArray) (copies : List Copy) :
    Tool (List Copy × Bool) := do
  let mut left : Array Copy := #[]
  let mut failed := false
  for copy in copies do
    match ← act (Act.write copy.fd block) with
    | .ok () => left := left.push copy
    | .error e =>
      if e != ⟨32⟩ || severity.any (·.tellsOfPipes) then
        warnOf (quoteName copy.name) e
        if severity.any (·.isFatal) then throw 1
        failed := true
  return (left.toList, failed)

def tee (call : Call) : Tool Nat := do
  let add (severity : Option Severity) (given : Given) : Tool (Option Severity) := do
    if given.1 != "p" then return severity
    return some (← given.2.elim (pure ⟨false, false⟩) (choose "--output-error" severities))
  let (p, severity) ← parseInto [.letter 'a' "append" .none, .letter 'i' "ignore-interrupts" .none,
    .letter 'p' "" .none, ⟨"p", "output-error", .optional⟩] false 1 call.operands none add
  if p.has "i" then act (Act.setDisposition 2 .ignored)
  if severity.isSome then act (Act.setDisposition World.brokenPipe .ignored)
  let mut copies : Array Copy := #[{ name := "standard output", fd := 1 }]
  let mut code := 0
  for name in p.operands do
    let append := p.has "a"
    match ← act (Act.openFile name
        { write := true, create := some 0o666, truncate := !append, append }) with
    | .ok fd => copies := copies.push { name, fd }
    | .error e =>
      warnOf (quoteName name) e
      if severity.any (·.isFatal) then return 1
      code := 1
  let step (state : List Copy × Bool) (block : ByteArray) : Tool ((List Copy × Bool) × Bool) := do
    let (copies, failed) := state
    let (copies, failing) ← copyBlock severity block copies
    return ((copies, failed || failing), copies.isEmpty)
  let ((_, failed), failure) ← forBlocks 0 Act.blockSize step (copies.toList, false) Act.manyReads
  if let some e := failure then
    warnOf "read error" e
    code := 1
  return if failed then 1 else code

end PipeShell.Host.Tool
