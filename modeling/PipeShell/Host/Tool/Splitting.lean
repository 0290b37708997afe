import PipeShell.Host.Signals
import PipeShell.Host.Tool.Amount
import PipeShell.Host.Tool.Options

/-! # The tool `split`

An input is cut into pieces, each of which becomes a file. Their names end in letters or digits that
are counted up; where there is no bound for them, they grow longer. -/

namespace PipeShell.Host.Tool

namespace Splitting

/-- How an input is cut. -/
inductive Manner where
  | lines (count : Nat)
  | bytes (count : Nat)
  /-- Whole lines, for as long as they take no more bytes. -/
  | lineBytes (count : Nat)
  /-- So many pieces of about the same size; perhaps only one of them is wanted. -/
  | pieces (only : Option Nat) (count : Nat)
  /-- So many pieces of about the same size, none of which ends within a line. -/
  | linePieces (only : Option Nat) (count : Nat)
  /-- So many pieces, to which lines go by turns. -/
  | rounds (only : Option Nat) (count : Nat)
  deriving DecidableEq, Repr

/-! ## Pieces -/

/-- Pieces that end with the last of so many lines each. -/
def byLines (stop : UInt8) (count : Nat) (data : ByteArray) : List ByteArray :=
  let (pieces, start, _) := (List.range data.size).foldl
    (fun ((pieces, start, seen) : List ByteArray × Nat × Nat) i =>
      if data.get! i != stop then (pieces, start, seen)
      else if seen + 1 < count then (pieces, start, seen + 1)
      else (data.extract start (i + 1) :: pieces, i + 1, 0))
    ([], 0, 0)
  (if start < data.size then data.extract start data.size :: pieces else pieces).reverse

def byBytes (count : Nat) (data : ByteArray) : List ByteArray :=
  (List.range ((data.size + count - 1) / max count 1)).map fun i =>
    data.extract (i * count) ((i + 1) * count)

/-- The place behind the last line break between two places. -/
def lastBreak? (stop : UInt8) (data : ByteArray) (low high : Nat) : Option Nat :=
  (List.range (high - low)).reverse.findSome? fun k =>
    if data.get! (low + k) == stop then some (low + k + 1) else none

/-- Pieces of whole lines, from a place on. A line that is too long fills pieces of its own. -/
def byLineBytes (stop : UInt8) (count : Nat) (data : ByteArray) (start : Nat) : Nat → List ByteArray
  | 0 => []
  | fuel + 1 =>
    if data.size ≤ start then []
    else
      let limit := start + count
      let cut :=
        if data.size ≤ limit && (data.size < limit || data.get! (data.size - 1) == stop) then data.size
        else (lastBreak? stop data start (min limit data.size)).getD (min limit data.size)
      data.extract start cut :: byLineBytes stop count data cut fuel

/-- How large each piece is; the last one takes what is left. -/
def pieceSize (count : Nat) (data : ByteArray) : Nat := max data.size count / count

/-- The piece with a number, which is counted from zero. -/
def pieceAt (count : Nat) (data : ByteArray) (i : Nat) : ByteArray :=
  let size := pieceSize count data
  data.extract (i * size) (if i + 1 == count then data.size else (i + 1) * size)

/-- For each piece where it ends: behind the line that the end of a piece of equal size lies in. The
last one ends where the data do. -/
def lineEnds (stop : UInt8) (count : Nat) (data : ByteArray) : List Nat :=
  let size := pieceSize count data
  (List.range count).map fun i =>
    if i + 1 == count then data.size
    else match data.findIdx? (· == stop) ((i + 1) * size - 1) with
      | some k => k + 1
      | none => data.size

def byLinePieces (stop : UInt8) (count : Nat) (data : ByteArray) : List ByteArray :=
  let ends := lineEnds stop count data
  ((0 :: ends).zip ends).map fun (low, high) => data.extract low high

/-- The lines whose number leaves a rest, together. -/
def roundAt (stop : UInt8) (count : Nat) (data : ByteArray) (i : Nat) : ByteArray :=
  ((byLines stop 1 data).zipIdx.filter fun (_, k) => k % count == i).foldl (fun all (l, _) => all ++ l) .empty

/-- All pieces, some of which may be empty. -/
def piecesOf (m : Manner) (stop : UInt8) (data : ByteArray) : List ByteArray :=
  match m with
  | .lines count => byLines stop count data
  | .bytes count => byBytes count data
  | .lineBytes count => byLineBytes stop count data 0 data.size
  | .pieces _ count => (List.range count).map (pieceAt count data)
  | .linePieces _ count => byLinePieces stop count data
  | .rounds _ count =>
    let lines := byLines stop 1 data
    (List.range count).map fun i =>
      (lines.zipIdx.filter fun (_, k) => k % count == i).foldl (fun all (l, _) => all ++ l) .empty

/-- The one piece that is wanted. -/
def wantedPiece? (m : Manner) (stop : UInt8) (data : ByteArray) : Option ByteArray :=
  match m with
  | .pieces (some k) count => some (pieceAt count data (k - 1))
  | .linePieces (some k) count => (byLinePieces stop count data)[k - 1]?
  | .rounds (some k) count => some (roundAt stop count data (k - 1))
  | _ => none

def Manner.count? : Manner → Option Nat
  | .pieces _ count | .linePieces _ count | .rounds _ count => some count
  | _ => none

def Manner.isOne : Manner → Bool
  | .pieces only _ | .linePieces only _ | .rounds only _ => only.isSome
  | _ => false

/-! ## Names -/

/-- The name of a piece: what it begins with, letters by their numbers, last one first, and what it
ends with. -/
structure Name where
  base : String
  places : List Nat
  extra : String
  letters : List Char
  /-- Whether names grow longer when their letters are used up. -/
  widens : Bool

namespace Name

variable (n : Name)

def letter (i : Nat) : String := String.ofList [n.letters.getD i ' ']

def text : String := n.base ++ String.join (n.places.reverse.map n.letter) ++ n.extra

/-- Counts up letters, last one first, unless all of them are the last letter. -/
def countUp (most : Nat) : List Nat → Option (List Nat)
  | [] => none
  | i :: rest => if i + 1 < most then some ((i + 1) :: rest) else (countUp most rest).map (0 :: ·)

def next? : Option Name :=
  match countUp n.letters.length n.places with
  | none => none
  | some places =>
    let first := places.getLast?.getD 0
    if n.widens && first + 1 == n.letters.length && first != n.places.getLast?.getD 0 then
      some { n with base := n.base ++ n.letter first, places := List.replicate (places.length + 1) 0 }
    else some { n with places }

end Name

/-! ## Files -/

structure Wanted where
  manner : Manner
  stop : UInt8 := 10
  omitsEmpty : Bool := false
  isVerbose : Bool := false
  /-- A command that takes each piece in place of a file. -/
  filter : Option String := none

/-- Writes a piece into a file of its own. -/
def writeFile (isVerbose : Bool) (input : Option Inode) (name : String) (piece : ByteArray) : Tool Unit := do
  if isVerbose then print ("creating file " ++ shellQuoted name ++ "\n")
  let there ← files fun fs cwd => (fs.resolve cwd name true).toOption
  if there.isSome && there == input then fail 1 (shellQuoted name ++ " would overwrite input; aborting")
  let give (e : Errno) : Tool Unit := fail 1 (quoteName name ++ ": " ++ e.message)
  match ← act (Act.openFile name { write := true, create := some 0o666, truncate := true }) with
  | .error e => give e
  | .ok fd =>
    let written ← act (Act.write fd piece)
    act (Act.close fd)
    if let .error e := written then give e

/-- Gives a piece to a command. -/
def runFilter (call : Call) (isVerbose : Bool) (command name : String) (piece : ByteArray) : Tool Unit := do
  if isVerbose then print ("executing with FILE=" ++ quoteName name ++ "\n")
  let shell := (valueIn call.environment "SHELL").getD "/bin/sh"
  let environment := call.environment.filter (!·.startsWith "FILE=") ++ ["FILE=" ++ name]
  match ← act (Act.call World.makePipe) with
  | .error e => fail 1 ("failed to create pipe: " ++ e.message)
  | .ok (readEnd, writeEnd) =>
    let isIgnored ← act (Act.look fun w => w.currentTask.ignored.contains World.brokenPipe)
    let pid ← act (Act.fork do
      if !isIgnored then Act.setDisposition World.brokenPipe .byDefault
      Act.close writeEnd
      Act.change fun w => (w.duplicate readEnd 0).2
      Act.close readEnd
      let e ← call.exec shell [(shell.splitOn "/").getLastD "sh", "-c", command] environment
      let body : Tool Nat := fail 1 ("failed to run command: \"" ++ shell ++ " -c " ++ command ++ "\": " ++ e.message)
      Tool.run call.name call.environment body)
    act (Act.close readEnd)
    if !isIgnored then act (Act.setDisposition World.brokenPipe .ignored)
    let _ ← act (Act.write writeEnd piece)
    act (Act.close writeEnd)
    match ← act (Act.wait (some pid) false) with
    | .child _ (.exited code) =>
      if code.toNat != 0 then
        fail code.toNat ("with FILE=" ++ quoteName name ++ ", exit " ++ toString code.toNat ++
          " from command: " ++ command)
    | .child _ (.signaled n) =>
      if n.toNat != World.brokenPipe then
        fail (n.toNat + 128) ("with FILE=" ++ quoteName name ++ ", signal " ++
          (Signals.label? n.toNat).getD (toString n.toNat) ++ " from command: " ++ command)
    | _ => return ()

/-- Writes pieces, each under the next name. -/
def writeAll (call : Call) (w : Wanted) (input : Option Inode) (name : Option Name) :
    List ByteArray → Tool Unit
  | [] => return ()
  | piece :: rest => do
    if piece.isEmpty && w.omitsEmpty then writeAll call w input name rest
    else match name with
      | none => fail 1 "output file suffixes exhausted"
      | some n =>
        match w.filter with
        | some command => runFilter call w.isVerbose command n.text piece
        | none => writeFile w.isVerbose input n.text piece
        writeAll call w input n.next? rest

/-! ## Options -/

/-- What has been said so far. -/
structure Said where
  manner : Option Manner := none
  /-- Whether the manner was said by digits alone. -/
  byDigits : Bool := false
  size : Nat := 0
  extra : String := ""
  letters : List Char := "abcdefghijklmnopqrstuvwxyz".toList
  start : Option String := none
  stop : Option UInt8 := none
  omitsEmpty : Bool := false
  isVerbose : Bool := false
  filter : Option String := none

/-- Takes the manner of pieces from an option, if there is none yet. -/
def sayManner (s : Said) (read : Tool Manner) : Tool Said := do
  if s.manner.isSome then misuse 1 "cannot split in more than one way"
  return { s with manner := some (← read) }

/-- The factors of sizes. -/
def factors : String := "bEGKkMmPTYZ0"

def amount (letters what text : String) (least : Nat) (most : Int) : Tool Nat :=
  return (← amountWithin false letters least most what text).toNat

def largest : Int := 2 ^ 64 - 1

/-- Reads a number of pieces, perhaps with the one that is wanted in front. -/
def chunks (text : String) (manner : Option Nat → Nat → Manner) : Tool Manner := do
  match text.toList.span (· != '/') with
  | (_, []) => return manner none (← amount "" "invalid number of chunks" text 1 largest)
  | (k, _ :: n) => do
    let count ← amount "" "invalid number of chunks" (String.ofList n) 1 largest
    return manner (some (← amount "" "invalid chunk number" (String.ofList k) 1 count)) count

def stopOf (s : Said) (text : String) : Tool Said := do
  let stop : UInt8 ← match text.toList with
    | [] => fail 1 "empty record separator"
    | [c] => pure (UInt8.ofNat c.toNat)
    | ['\\', '0'] => pure 0
    | _ => fail 1 ("multi-character separator " ++ quote text)
  if s.stop.any (· != stop) then fail 1 "multiple separator characters specified"
  return { s with stop := some stop }

/-- Digits in place of letters, perhaps from a number on. -/
def countWith (s : Said) (letters kind : String) (start : Option String) : Tool Said := do
  let s := { s with letters := letters.toList }
  match start with
  | none => return s
  | some text =>
    if !text.toList.all letters.toList.contains then
      misuse 1 (quote text ++ ": invalid start value for " ++ kind ++ " suffix")
    let cs := text.toList.dropWhile (· == '0')
    return { s with start := some (if cs.isEmpty then String.ofList (text.toList.take 1) else String.ofList cs) }

def addOption (digits : String) (s : Said) (given : Given) : Tool Said := do
  let text := given.2.getD ""
  match given.1 with
  | "a" => return { s with size := ← amount "" "invalid suffix length" text 0 (2 ^ 61 - 1) }
  | "additional-suffix" =>
    if text.toList.contains '/' then
      misuse 1 ("invalid suffix " ++ quote text ++ ", contains directory separator")
    return { s with extra := text }
  | "b" => sayManner s do return .bytes (← amount factors "invalid number of bytes" text 1 (2 ^ 63 - 1))
  | "l" => sayManner s do return .lines (← amount "" "invalid number of lines" text 1 largest)
  | "C" => sayManner s do return .lineBytes (← amount factors "invalid number of lines" text 1 (2 ^ 63 - 1))
  | "n" => sayManner s (match text.toList.dropWhile Number.Floating.isSpace with
    | 'r' :: '/' :: cs => chunks (String.ofList cs) .rounds
    | 'l' :: '/' :: cs => chunks (String.ofList cs) .linePieces
    | cs => chunks (String.ofList cs) .pieces)
  | "u" | "io-blksize" => return s
  | "t" => stopOf s text
  | "d" => countWith s "0123456789" "numerical" given.2
  | "x" => countWith s "0123456789abcdef" "hexadecimal" given.2
  | "e" => return { s with omitsEmpty := true }
  | "filter" => return { s with filter := some text }
  | "verbose" => return { s with isVerbose := true }
  | digit =>
    if s.byDigits then return s
    let n := digits.toNat?.getD 0
    if 2 ^ 64 ≤ n then
      fail 1 ("line count option -" ++ toString (n / 10) ++ digit ++ "... is too large")
    return { (← sayManner s (return .lines n)) with byDigits := true }

/-- How many letters pieces need if there are so many of them. -/
def lettersFor (count base : Nat) : Nat → Nat
  | 0 => 1
  | fuel + 1 => if count < base then 1 else 1 + lettersFor (count / base) base fuel

/-- How the first piece is called. -/
def firstName (s : Said) (m : Manner) (base : String) : Tool Name := do
  let needed : Nat := match m.count? with
    | none => 0
    | some count =>
      let start := (s.start.bind (·.toNat?)).getD 0
      lettersFor (count - 1 + (if start < count then start else 0)) s.letters.length 64
  if s.size != 0 && s.size < needed then
    fail 1 ("the suffix length needs to be at least " ++ toString needed)
  let size := if s.size != 0 then s.size else max 2 needed
  let start := (s.start.getD "").toList
  if size < start.length then
    misuse 1 "numerical suffix start value is too large for the suffix length"
  let digits := (start.map fun c => s.letters.idxOf c).reverse
  return {
    base, extra := s.extra, letters := s.letters
    places := digits ++ List.replicate (size - start.length) 0
    widens := s.size == 0 && s.start.isNone && m.count?.isNone }

def switches : List Switch := [.letter 'b' "bytes" .required, .letter 'l' "lines" .required,
  .letter 'C' "line-bytes" .required, .letter 'n' "number" .required,
  .letter 'e' "elide-empty-files" .none, .letter 'u' "unbuffered" .none,
  .letter 'a' "suffix-length" .required, ⟨"additional-suffix", "additional-suffix", .required⟩,
  .letter 'd' "" .none, ⟨"d", "numeric-suffixes", .optional⟩, .letter 'x' "" .none,
  ⟨"x", "hex-suffixes", .optional⟩, ⟨"filter", "filter", .required⟩, ⟨"verbose", "verbose", .none⟩,
  .letter 't' "separator" .required, ⟨"io-blksize", "-io-blksize", .required⟩] ++
  Switch.ofLetters "0123456789"

end Splitting

open Splitting in
def split (call : Call) : Tool Nat := do
  -- If numbers are given on their own more than once, the last one counts.
  let isNumber (word : String) : Bool := match word.toList with
    | '-' :: c :: cs => (c :: cs).all Char.isDigit
    | _ => false
  let digits : String := match (call.operands.filter isNumber).getLast? with
    | some word => String.ofList (word.toList.drop 1)
    | none =>
      let given := (parseFrom switches false {} call.operands (call.operands.length + 1)).given
      String.join ((given.map (·.1)).filter fun key => key.toList.all Char.isDigit)
  let (p, s) ← parseInto switches false 1 call.operands {} (addOption digits)
  let m := s.manner.getD (.lines 1000)
  if m.isOne && s.filter.isSome then misuse 1 "--filter does not process a chunk extracted to stdout"
  if m = .lines 0 then misuse 1 ("invalid number of lines: " ++ quote "0")
  let base := p.operands.getD 1 "x"
  let name ← firstName s m base
  if let some extra := p.operands[2]? then extraOperand 1 extra
  let input := p.operands.headD "-"
  match ← openOperand input with
  | .error e => fail 1 ("cannot open " ++ shellQuoted input ++ " for reading: " ++ e.message)
  | .ok fd =>
    let node := (← act (Act.nodeAt? fd)).map (·.1)
    let (data, failure) ← readWhole fd
    if let some e := failure then
      let isMeasured := match m with
        | .pieces .. | .linePieces .. => true
        | _ => false
      fail 1 (quoteName input ++ (if isMeasured then ": cannot determine file size" else "") ++ ": " ++ e.message)
    let stop := s.stop.getD 10
    match wantedPiece? m stop data with
    | some piece => put piece
    | none =>
      let w : Wanted := {
        manner := m, stop, omitsEmpty := s.omitsEmpty, isVerbose := s.isVerbose, filter := s.filter }
      writeAll call w node (some name) (piecesOf m stop data)
    return 0

end PipeShell.Host.Tool
