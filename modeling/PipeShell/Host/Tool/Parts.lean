import PipeShell.Host.Tool.Amount
import PipeShell.Host.Tool.Options

/-! # The tool `head`

It shows the beginning of each input, in lines or in bytes, with a title above each if there are
several. -/

namespace PipeShell.Host.Tool

/-- Which part of an input is shown. -/
structure Part where
  count : Nat := 10
  ofBytes : Bool := false
  /-- For the beginning: all but so much. For the end: all but what stands before. -/
  inverted : Bool := false
  /-- What ends a line. -/
  stop : UInt8 := 10
  /-- Whether titles are shown; nothing if that depends on how many inputs there are. -/
  titles : Option Bool := none

namespace Part

def what (ofBytes : Bool) : String := if ofBytes then "invalid number of bytes" else "invalid number of lines"

/-- Shows a title above what follows. -/
def putTitle (isFirst : Bool) (shown : String) : Tool Unit :=
  print ((if isFirst then "" else "\n") ++ "==> " ++ shown ++ " <==\n")

/-- Shows the part of each input, and leaves it with what is to be remembered of it. -/
def showEach {β : Type} (part : Part) (names : List String) (use : Nat → Tool (Option Errno))
    (leave : String → Nat → Option Errno → Tool (List β)) : Tool (Nat × List β) := do
  let names := orInput names
  let titles := part.titles.getD (1 < names.length)
  let mut isFirst := true
  let mut code := 0
  let mut kept : List β := []
  for name in names do
    let shown := if name == "-" then "standard input" else name
    match ← openOperand name with
    | .error e =>
      warnOf ("cannot open " ++ shellQuoted shown ++ " for reading") e
      code := 1
    | .ok fd =>
      if titles then
        putTitle isFirst shown
        isFirst := false
      let failure ← use fd
      if let some e := failure then
        warnOf ("error reading " ++ shellQuoted shown) e
        code := 1
      kept := kept ++ (← leave name fd failure)
  return (code, kept)

/-- Where so many lines end, if they all do; otherwise how many are there. -/
def lineEnd (stop : UInt8) (bytes : ByteArray) (start : Nat) : Nat → Except Nat Nat
  | 0 => .ok start
  | count + 1 => match bytes.findIdx? (· == stop) start with
    | none => .error (count + 1)
    | some i => lineEnd stop bytes (i + 1) count

/-! ## The beginning -/

/-- How much is read at a time. -/
def blockSize : Nat := 8192

def firstBytes (fd count : Nat) : Nat → Tool (Option Errno)
  | 0 => return none
  | fuel + 1 =>
    if count == 0 then return none
    else do
      match ← act (Act.read fd (min count blockSize)) with
      | .error e => return some e
      | .ok block =>
        if block.isEmpty then return none
        put block
        firstBytes fd (count - block.size) fuel

/-- Shows the first lines. What has been read too much of a file is left to others. -/
def firstLines (stop : UInt8) (fd count : Nat) : Nat → Tool (Option Errno)
  | 0 => return none
  | fuel + 1 =>
    if count == 0 then return none
    else do
      match ← act (Act.read fd blockSize) with
      | .error e => return some e
      | .ok block =>
        if block.isEmpty then return none
        match lineEnd stop block 0 count with
        | .ok i =>
          put (block.extract 0 i)
          if i < block.size then
            let _ ← act (Act.seek fd 1 (i - block.size : Int))
          return none
        | .error left =>
          put block
          firstLines stop fd left fuel

/-- The bytes without so many at their end. -/
def allBut (part : Part) (bytes : ByteArray) : ByteArray :=
  if part.ofBytes then bytes.extract 0 (bytes.size - part.count)
  else
    let (lines, _) := linesOf part.stop bytes
    match lineEnd part.stop bytes 0 (lines.size - part.count) with
    | .ok i => bytes.extract 0 i
    | .error _ => bytes

def beginning (part : Part) (fd : Nat) : Tool (Option Errno) := do
  if part.inverted then
    let start := (← regularAt? fd).map (·.2.2)
    let (bytes, failure) ← readWhole fd
    let shown := part.allBut bytes
    put shown
    if let some position := start then
      let _ ← act (Act.seek fd 0 (position + shown.size : Nat))
    return failure
  else if part.ofBytes then firstBytes fd part.count Act.manyReads
  else firstLines part.stop fd part.count Act.manyReads

/-! ## Options -/

/-- The letters behind a number in the old way to write options of `head`. -/
def oldLetters (part : Part) (factor : String) : List Char → Tool (Part × String)
  | [] => return (part, factor)
  | 'c' :: cs => oldLetters { part with ofBytes := true } "" cs
  | 'l' :: cs => oldLetters { part with ofBytes := false } factor cs
  | 'q' :: cs => oldLetters { part with titles := some false } factor cs
  | 'v' :: cs => oldLetters { part with titles := some true } factor cs
  | 'z' :: cs => oldLetters { part with stop := 0 } factor cs
  | c :: cs =>
    if "bkm".toList.contains c then
      oldLetters { part with ofBytes := true } (String.ofList [c]) cs
    else misuse 1 ("invalid trailing option -- " ++ String.ofList [c])

/-- Reads an option of `head` in the old way, if the first word is one. -/
def oldBeginning (words : List String) : Tool (Part × List String) := do
  match words with
  | word :: rest => match word.toList with
    | '-' :: c :: cs =>
      if !c.isDigit then return ({}, words)
      let digits := (c :: cs).takeWhile Char.isDigit
      let (part, factor) ← oldLetters {} "" ((c :: cs).drop digits.length)
      let count ← sizeAmount (what part.ofBytes) (String.ofList digits ++ factor)
      return ({ part with count }, rest)
    | _ => return ({}, words)
  | [] => return ({}, [])

/-- Options that both tools have. -/
def switches : List Switch := [.letter 'c' "bytes" .required, .letter 'n' "lines" .required,
  .letter 'q' "quiet" .none, ⟨"q", "silent", .none⟩, .letter 'v' "verbose" .none,
  .letter 'z' "zero-terminated" .none] ++ Switch.ofLetters "0123456789"

/-- What the options say, but for how much is shown. -/
def withFlags (part : Part) (p : Parsed) : Part :=
  { part with
    titles := match p.lastOf? ["q", "v"] with
      | some key => some (key == "v")
      | none => part.titles
    stop := if p.has "z" then 0 else part.stop }

def isDigitKey (key : String) : Bool := key.toList.any Char.isDigit

/-- Reads what `head` is told of how much to show. -/
def addBeginning (part : Part) (given : Given) : Tool Part := do
  let (key, argument) := given
  let text := argument.getD ""
  if key == "c" || key == "n" then
    let ofBytes := key == "c"
    let inverted := text.startsWith "-"
    let count ← sizeAmount (what ofBytes) (if inverted then String.ofList (text.toList.drop 1) else text)
    return { part with count, ofBytes, inverted }
  if isDigitKey key then misuse 1 ("invalid trailing option -- " ++ key)
  return part

end Part

open PipeShell.Host.Tool.Part in
def head (call : Call) : Tool Nat := do
  let (part, words) ← oldBeginning call.operands
  let (p, part) ← parseInto (switches ++ [⟨"presume", "-presume-input-pipe", .none⟩]) false 1 words part addBeginning
  let part := part.withFlags p
  if part.ofBytes && part.inverted && 2 ^ 63 ≤ part.count then
    refuseAmount 1 (what true) (toString part.count) (some valueTooLarge)
  let leave (_ : String) (fd : Nat) (_ : Option Errno) : Tool (List Unit) := do
    closeOperand fd
    return []
  return (← part.showEach p.operands part.beginning leave).1

end PipeShell.Host.Tool
