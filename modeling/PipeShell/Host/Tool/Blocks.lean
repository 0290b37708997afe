import PipeShell.Host.FileSystem.Facts
import PipeShell.Host.Tool.Amount
import PipeShell.Host.Tool.Charset
import PipeShell.Host.Tool.Options

/-! # The tool `dd`

An input is read block by block, converted, and written block by block. Blocks are counted, those
that came whole apart from those that did not. -/

namespace PipeShell.Host.Tool

namespace Blocks

/-- A number of blocks and of bytes besides. -/
structure Extent where
  blocks : Nat := 0
  bytes : Nat := 0
  deriving DecidableEq, Repr

def Extent.size (e : Extent) (block : Nat) : Nat := e.blocks * block + e.bytes

def Extent.isZero (e : Extent) : Bool := e.blocks == 0 && e.bytes == 0

structure Wanted where
  input : Option String := none
  output : Option String := none
  inputBlock : Nat := 512
  outputBlock : Nat := 512
  /-- Whether blocks are written as they were read. -/
  isDirect : Bool := false
  /-- How long the records of cards are. -/
  record : Nat := 0
  skip : Extent := {}
  seek : Extent := {}
  count : Option Extent := none
  conversions : List String := []
  inputFlags : List String := []
  outputFlags : List String := []
  status : Option String := none

namespace Wanted

variable (w : Wanted)

def converts (name : String) : Bool := w.conversions.contains name

def inputName : String := w.input.getD "standard input"

def outputName : String := w.output.getD "standard output"

/-- Whether lines become records, or records lines. -/
def makesRecords : Bool := w.record != 0 && ["block", "ebcdic", "ibm"].any w.converts

def makesLines : Bool := w.record != 0 && ["unblock", "ascii"].any w.converts

/-- The set that lines are written in, if that is not the usual one. -/
def set? : Option Charset.Table :=
  if w.converts "ebcdic" then some Charset.toCards
  else if w.converts "ibm" then some Charset.toPrinter
  else none

def newline : UInt8 := (w.set?.map (·.get 10)).getD 10

def blank : UInt8 := (w.set?.map (·.get 32)).getD 32

/-- A byte as it is written. -/
def translated (b : UInt8) : UInt8 :=
  let b := if w.converts "ascii" then Charset.ofCards.get b else b
  let b :=
    if w.converts "ucase" then (if 97 ≤ b && b ≤ 122 then b - 32 else b)
    else if w.converts "lcase" then (if 65 ≤ b && b ≤ 90 then b + 32 else b)
    else b
  (w.set?.map (·.get b)).getD b

end Wanted

/-- Where copying stands. -/
structure State where
  fullIn : Nat := 0
  partialIn : Nat := 0
  fullOut : Nat := 0
  partialOut : Nat := 0
  /-- Records that were too short for their lines. -/
  cut : Nat := 0
  written : Nat := 0
  /-- What has not been written yet. -/
  pending : ByteArray := .empty
  /-- The place in the record or the line. -/
  column : Nat := 0
  /-- Blanks that are written only if something follows them. -/
  blanks : Nat := 0
  /-- The byte of a pair whose other byte has not come. -/
  single : Option UInt8 := none
  start : Nat := 0
  /-- How much the last read brought, if it is to be watched. -/
  watched : Option Nat := none

abbrev Copying := StateT State Tool

def do_ {α : Type} (t : Tool α) : Copying α := StateT.lift t

/-! ## Counts -/

/-- A number with a digit behind the point if it is small, in a unit that suits it. -/
def inUnits (base num den : Nat) : Nat → Nat → Nat × Nat
  | exponent, 0 => (exponent, 0)
  | exponent, fuel + 1 =>
    if num < base ^ (exponent + 1) * den then (exponent, 0) else inUnits base num den (exponent + 1) fuel

/-- A quotient in the unit with an exponent, rounded. -/
def scaled (base num den exponent : Nat) : String :=
  let unit := den * base ^ exponent
  let tenths := Number.Floating.nearest (num * 10) unit
  if exponent == 0 || 1000 ≤ tenths || (base == 1024 && 100 ≤ tenths) then
    toString (Number.Floating.nearest num unit)
  else s!"{tenths / 10}.{tenths % 10}"

def unitName (binary : Bool) (exponent : Nat) : String :=
  if exponent == 0 then "B"
  else
    let letter := if !binary && exponent == 1 then 'k' else Number.Human.unitLetters.getD exponent ' '
    String.ofList [letter] ++ (if binary then "iB" else "B")

def sizeText (binary : Bool) (bytes : Nat) : String :=
  let base := if binary then 1024 else 1000
  let (exponent, _) := inUnits base bytes 1 0 8
  scaled base bytes 1 exponent ++ " " ++ unitName binary exponent

/-- How much was copied, in what time and how fast. -/
def transferText (bytes time : Nat) : String :=
  let sizes :=
    if bytes < 1000 then ""
    else if bytes < 1024 then " (" ++ sizeText false bytes ++ ")"
    else " (" ++ sizeText false bytes ++ ", " ++ sizeText true bytes ++ ")"
  let rate :=
    if time == 0 then "Infinity B/s"
    else
      let (exponent, _) := inUnits 1000 (bytes * 1000000) time 1 8
      scaled 1000 (bytes * 1000000) time exponent ++ " " ++ unitName false exponent ++ "/s"
  let seconds := (Number.Floating.ofQuotient .double false time 1000000).1.shown .double 'g' none false
  toString bytes ++ (if bytes == 1 then " byte" else " bytes") ++ sizes ++ " copied, " ++ seconds ++ " s, " ++
    rate ++ "\n"

def report (w : Wanted) : Copying Unit := do
  let s ← get
  if w.status == some "none" then return ()
  do_ (note s!"{s.fullIn}+{s.partialIn} records in\n{s.fullOut}+{s.partialOut} records out\n")
  if s.cut != 0 then
    do_ (note (toString s.cut ++ (if s.cut == 1 then " truncated record\n" else " truncated records\n")))
  if w.status != some "noxfer" then
    let now ← do_ (act Act.now)
    do_ (note (transferText s.written (now - s.start)))

/-- Ends the tool after saying how much was copied. -/
def quit {α : Type} (w : Wanted) (code : Nat) : Copying α := do
  report w
  do_ (throw code)

/-! ## Writing -/

/-- Writes a block; what went wrong is said in these words. -/
def writeBlock (w : Wanted) (fd : Nat) (words : String) (bytes : ByteArray) (isFull : Bool) : Copying Unit := do
  match ← do_ (act (Act.write fd bytes)) with
  | .ok () => modify fun s => { s with
      written := s.written + bytes.size
      fullOut := if isFull then s.fullOut + 1 else s.fullOut
      partialOut := if isFull then s.partialOut else s.partialOut + 1 }
  | .error e =>
    do_ (warnOf (words ++ " " ++ shellQuoted w.outputName) e)
    quit w 1

/-- Writes the blocks that have become full. The number bounds how many there are. -/
def writeFull (w : Wanted) (fd : Nat) : Nat → Copying Unit
  | 0 => return ()
  | fuel + 1 => do
    let s ← get
    if s.pending.size < w.outputBlock then return ()
    set { s with pending := s.pending.extract w.outputBlock s.pending.size }
    writeBlock w fd "writing to" (s.pending.extract 0 w.outputBlock) true
    writeFull w fd fuel

/-- Adds bytes to what is to be written. -/
def emit (w : Wanted) (fd : Nat) (bytes : ByteArray) : Copying Unit := do
  modify fun s => { s with pending := s.pending ++ bytes }
  writeFull w fd ((← get).pending.size / w.outputBlock + 1)

def blanksOf (w : Wanted) (n : Nat) : ByteArray := ⟨(List.replicate n w.blank).toArray⟩

/-- Makes a record of a line, byte by byte. -/
def addToRecord (w : Wanted) (s : State) (out : ByteArray) (b : UInt8) : State × ByteArray :=
  if b == w.newline then ({ s with column := 0 }, out ++ blanksOf w (w.record - s.column))
  else
    let s' := { s with column := s.column + 1, cut := if s.column == w.record then s.cut + 1 else s.cut }
    (s', if s.column < w.record then out.push b else out)

/-- Makes a line of a record, byte by byte. Blanks at its end are left out. -/
def addToLine (w : Wanted) (s : State) (out : ByteArray) (b : UInt8) : State × ByteArray :=
  let (s, out) :=
    if w.record ≤ s.column then ({ s with column := 0, blanks := 0 }, out.push w.newline) else (s, out)
  let s := { s with column := s.column + 1 }
  if b == w.blank then ({ s with blanks := s.blanks + 1 }, out)
  else ({ s with blanks := 0 }, (out ++ blanksOf w s.blanks).push b)

/-- Passes bytes on that have been translated. -/
def pass (w : Wanted) (fd : Nat) (bytes : ByteArray) : Copying Unit := do
  if w.makesRecords || w.makesLines then
    let add := if w.makesRecords then addToRecord w else addToLine w
    let (s, out) := bytes.foldl (fun ((s, out) : State × ByteArray) b => add s out b) (← get, .empty)
    set s
    emit w fd out
  else emit w fd bytes

/-- Swaps the bytes of pairs; one without another is left. -/
def swapped : List UInt8 → List UInt8 × Option UInt8
  | a :: b :: rest => let (out, left) := swapped rest; (b :: a :: out, left)
  | [a] => ([], some a)
  | [] => ([], none)

def convert (w : Wanted) (fd : Nat) (bytes : ByteArray) : Copying Unit := do
  let bytes : ByteArray := ⟨bytes.data.map w.translated⟩
  if w.converts "swab" then
    let s ← get
    let (out, single) := swapped (s.single.toList ++ bytes.toList)
    set { s with single }
    pass w fd ⟨out.toArray⟩
  else pass w fd bytes

/-- Writes what is left at the end. -/
def finish (w : Wanted) (fd : Nat) : Copying Unit := do
  if let some b := (← get).single then pass w fd ⟨#[b]⟩
  let s ← get
  if w.makesRecords && s.column != 0 then emit w fd (blanksOf w (w.record - s.column))
  if w.makesLines && s.column != 0 then emit w fd ⟨#[w.newline]⟩
  let s ← get
  if !s.pending.isEmpty then
    set { s with pending := .empty }
    writeBlock w fd "error writing" s.pending false

/-! ## Reading -/

/-- Reads until so many bytes have come or the input is over. -/
def readFull (fd size : Nat) (bytes : ByteArray) : Nat → Tool (Except Errno ByteArray)
  | 0 => return .ok bytes
  | fuel + 1 => do
    if size ≤ bytes.size then return .ok bytes
    match ← act (Act.read fd (size - bytes.size)) with
    | .error e => return .error e
    | .ok more => if more.isEmpty then return .ok bytes else readFull fd size (bytes ++ more) fuel

/-- Reads a block. That one before came short is told of once. -/
def readBlock (w : Wanted) (fd size : Nat) : Copying (Except Errno ByteArray) := do
  if w.inputFlags.contains "fullblock" then do_ (readFull fd size .empty size)
  else
    let answer ← do_ (act (Act.read fd size))
    if let .ok bytes := answer then
      if let some last := (← get).watched then
        if !bytes.isEmpty then
          let isShort := 0 < last && last < size
          if isShort && w.status != some "none" then
            do_ (warn ("warning: partial read (" ++ toString last ++ (if last == 1 then " byte" else " bytes") ++
              "); suggest iflag=fullblock"))
          modify fun s => { s with watched := if isShort then none else some bytes.size }
    return answer

/-- Passes over bytes by reading them: how many blocks and bytes are left, and how many bytes have
been read. -/
def skipReading (w : Wanted) (fd : Nat) (left : Extent) (passed : Nat) : Nat → Copying (Extent × Nat)
  | 0 => return (left, passed)
  | fuel + 1 => do
    if left.isZero then return (left, passed)
    match ← readBlock w fd (if left.blocks != 0 then w.inputBlock else left.bytes) with
    | .error e =>
      do_ (warnOf ("error reading " ++ shellQuoted w.inputName) e)
      if w.converts "noerror" then report w
      quit w 1
    | .ok bytes =>
      if bytes.isEmpty then return (left, passed)
      let left : Extent := if left.blocks != 0 then { left with blocks := left.blocks - 1 } else { blocks := 0 }
      skipReading w fd left (passed + bytes.size) fuel

/-- The largest place in a file. -/
def farthest : Nat := 2 ^ 63 - 1

def skipInput (w : Wanted) (fd : Nat) : Copying Unit := do
  let offset := w.skip.size w.inputBlock
  let isSeekable := (← do_ (act (Act.seek fd 1 0))).isOk
  let isMissed ← if isSeekable then do
      if farthest < offset then
        do_ (warnOf (quoteName w.inputName ++ ": cannot skip") valueTooLarge)
        quit w 1
      let file ← do_ (regularAt? fd)
      let _ ← do_ (act (Act.seek fd 1 offset))
      pure (file.any fun (_, bytes, position) => bytes.size < position + offset)
    else do
      let (_, passed) ← skipReading w fd w.skip 0 (w.skip.blocks + 2)
      pure (passed != offset)
  if isMissed && w.status != some "none" then
    do_ (warn (quoteName w.inputName ++ ": cannot skip to specified offset"))

def skipOutput (w : Wanted) (fd : Nat) : Copying Unit := do
  let offset := w.seek.size w.outputBlock
  let refuse (e : Errno) : Copying Unit := do
    do_ (warnOf (quoteName w.outputName ++ ": cannot seek") e)
    quit w 1
  if farthest < offset then refuse valueTooLarge
  match ← do_ (act (Act.seek fd 1 offset)) with
  | .ok _ => return ()
  | .error e => refuse e

/-- A block that came short, filled up. -/
def filled (w : Wanted) (bytes : ByteArray) : ByteArray :=
  if w.converts "sync" && bytes.size < w.inputBlock then
    let b : UInt8 := if w.makesRecords || w.makesLines then 32 else 0
    bytes ++ ⟨(List.replicate (w.inputBlock - bytes.size) b).toArray⟩
  else bytes

/-- Copies blocks until the input is over or there are enough, and gives the code. -/
def copy (w : Wanted) (source target : Nat) : Nat → Copying Nat
  | 0 => return 0
  | fuel + 1 => do
    let s ← get
    let seen := s.fullIn + s.partialIn
    let size := match w.count with
      | none => w.inputBlock
      | some most => if seen < most.blocks then w.inputBlock else if seen == most.blocks then most.bytes else 0
    if size == 0 then return 0
    match ← readBlock w source size with
    | .error e =>
      do_ (warnOf ("error reading " ++ shellQuoted w.inputName) e)
      if w.converts "noerror" then report w
      return 1
    | .ok bytes =>
      if bytes.isEmpty then return 0
      let isFull := bytes.size == w.inputBlock
      modify fun s => { s with
        fullIn := if isFull then s.fullIn + 1 else s.fullIn
        partialIn := if isFull then s.partialIn else s.partialIn + 1 }
      let block := filled w bytes
      if w.isDirect then writeBlock w target "error writing" block (block.size == w.inputBlock)
      else convert w target block
      copy w source target fuel

/-! ## Opening -/

/-- What a flag refuses of a node. -/
def refusal? (flags : List String) (path : String) : Tool (Option Errno) := files fun fs cwd =>
  let isLink := match fs.resolve cwd path false with
    | .ok i => (fs.node? i).any (·.isLink)
    | .error _ => false
  let isDirectory := match fs.resolve cwd path true with
    | .ok i => fs.isDirectory i
    | .error _ => true
  if flags.contains "nofollow" && isLink then some ⟨40⟩
  else if flags.contains "directory" && !isDirectory then some .notDirectory
  else none

def open_ (path : String) (flags : List String) (mode : World.OpenMode) : Tool Nat := do
  let answer : Except Errno Nat ← match ← refusal? flags path with
    | some e => pure (.error e)
    | none => act (Act.openFile path mode)
  match answer with
  | .ok fd => return fd
  | .error e => fail 1 ("failed to open " ++ shellQuoted path ++ ": " ++ e.message)

def openInput (w : Wanted) : Tool Nat :=
  match w.input with
  | none => return 0
  | some path => open_ path w.inputFlags { read := true }

/-- Gives a file another size. -/
def resize (fd size : Nat) : Tool Unit := do
  if let some (i, bytes, _) ← regularAt? fd then
    let content := if size ≤ bytes.size then bytes.extract 0 size else World.overwrite bytes size .empty
    let _ ← changeFiles fun fs _ => .ok (fs.setBody i (.file content))

def openOutput (w : Wanted) : Tool Nat :=
  match w.output with
  | none => return 1
  | some path => do
    let size := w.seek.size w.outputBlock
    if farthest < size && !w.converts "notrunc" then
      fail 1 ("offset too large: cannot truncate to a length of seek=" ++ toString w.seek.blocks ++
        " (" ++ toString w.outputBlock ++ "-byte) blocks")
    let fd ← open_ path w.outputFlags {
      write := true, create := if w.converts "nocreat" then none else some 0o666
      exclusive := w.converts "excl", truncate := w.seek.blocks == 0 && !w.converts "notrunc"
      append := w.outputFlags.contains "append" }
    if w.seek.blocks != 0 && !w.converts "notrunc" then resize fd size
    return fd

/-! ## Operands -/

def letters : String := "bcEGkKMPTwYZ0"

/-- The largest number of a signed machine word, and whether it is that because it was too large. -/
def clamped (n : Int) (isFar : Bool) : Nat × Bool :=
  if isFar || farthest < n then (farthest, true) else (n.toNat, false)

/-- A number, perhaps the product of several, and whether it is too large; nothing if it is none. A
warning is due if it is zero because it begins like a number to another base. -/
def number (cs : List Char) : Nat → Tool (Option (Nat × Bool))
  | 0 => return none
  | fuel + 1 => do
    let isMinus := (cs.dropWhile Number.Floating.isSpace).head? == some '-'
    let (n, isFar, rest) := Number.Integer.read 10 cs
    if isMinus then return none
    let letters := letters.toList
    let isBare := rest.length == cs.length
    if isBare && !((rest.head?.map letters.contains).getD false) then return none
    let n := if isBare then 1 else n
    let (n, size) := match Amount.factor? letters rest with
      | some (factor, size) => (n * factor, size)
      | none => (n, 0)
    let behind := rest.drop size
    let isByte := size != 0 && (rest[size - 1]?) == some 'B'
    let behind := match behind with
      | 'B' :: more => if isByte then behind else more
      | _ => behind
    let (n, isFar) := clamped n (isFar || 2 ^ 64 ≤ n)
    match behind with
    | [] => return some (n, isFar)
    | 'x' :: more => do
      match ← number more fuel with
      | none => return none
      | some (k, far) =>
        let product := n * k
        if product == 0 then
          if cs.take 2 == ['0', 'x'] then
            warn ("warning: " ++ quote "0x" ++ " is a zero multiplier; use " ++ quote "00x" ++
              " if that is intended")
          return some (0, false)
        let (product, tooFar) := clamped product (isFar || far)
        return some (product, tooFar)
    | _ => return none

def numberIn (least most : Nat) (text : String) : Tool Nat := do
  match ← number text.toList (text.length + 1) with
  | none => fail 1 ("invalid number: " ++ quote text)
  | some (n, isFar) =>
    if n < least then fail 1 ("invalid number: " ++ quote text)
    if isFar || most < n then fail 1 ("invalid number: " ++ quote text ++ ": " ++ valueTooLarge.message)
    return n

def conversionNames : List String := ["ascii", "ebcdic", "ibm", "block", "unblock", "lcase", "ucase",
  "sparse", "swab", "noerror", "nocreat", "excl", "notrunc", "sync", "fdatasync", "fsync"]

def flagNames : List String := ["append", "direct", "directory", "dsync", "noatime", "nocache", "noctty",
  "nofollow", "nonblock", "sync", "fullblock", "count_bytes", "skip_bytes", "seek_bytes"]

def statusNames : List String := ["none", "noxfer", "progress"]

/-- The words of a list, which have to be known. -/
def wordsOf (known : List String) (what text : String) : Tool (List String) := do
  let words := text.splitOn ","
  if let some word := words.find? (!known.contains ·) then misuse 1 (what ++ ": " ++ quote word)
  return words

/-- What has been said so far. -/
structure Said where
  wanted : Wanted := {}
  block : Nat := 0
  inputBlock : Nat := 0
  outputBlock : Nat := 0
  /-- Numbers, and whether they are numbers of bytes. -/
  skip : Nat × Bool := (0, false)
  seek : Nat × Bool := (0, false)
  count : Option (Nat × Bool) := none

/-- The largest block. -/
def largestBlock : Nat := 2 ^ 63 - 1

def addOperand (s : Said) (word : String) : Tool Said := do
  match word.splitOn "=" with
  | name :: first :: more => do
    let text := "=".intercalate (first :: more)
    let w := s.wanted
    let isBytes := text.toList.contains 'B'
    match name with
    | "if" => return { s with wanted := { w with input := some text } }
    | "of" => return { s with wanted := { w with output := some text } }
    | "conv" =>
      let words ← wordsOf conversionNames "invalid conversion" text
      return { s with wanted := { w with conversions := w.conversions ++ words } }
    | "iflag" =>
      let words ← wordsOf flagNames "invalid input flag" text
      return { s with wanted := { w with inputFlags := w.inputFlags ++ words } }
    | "oflag" =>
      let words ← wordsOf flagNames "invalid output flag" text
      return { s with wanted := { w with outputFlags := w.outputFlags ++ words } }
    | "status" =>
      let words ← wordsOf statusNames "invalid status level" text
      return { s with wanted := { w with status := words.getLast? } }
    | "ibs" => return { s with inputBlock := ← numberIn 1 largestBlock text }
    | "obs" => return { s with outputBlock := ← numberIn 1 largestBlock text }
    | "bs" => return { s with block := ← numberIn 1 largestBlock text }
    | "cbs" => return { s with wanted := { w with record := ← numberIn 1 farthest text } }
    | "skip" | "iseek" => return { s with skip := (← numberIn 0 farthest text, isBytes) }
    | "seek" | "oseek" => return { s with seek := (← numberIn 0 farthest text, isBytes) }
    | "count" => return { s with count := some (← numberIn 0 farthest text, isBytes) }
    | _ => misuse 1 ("unrecognized operand " ++ quote word)
  | _ => misuse 1 ("unrecognized operand " ++ quote word)

def extentOf (block : Nat) (n : Nat) (isBytes : Bool) : Extent :=
  if isBytes then ⟨n / block, n % block⟩ else ⟨n, 0⟩

/-- Ends the tool if two words of a group are given. -/
def refuseBoth (given group : List String) (text : String) : Tool Unit := do
  if 1 < (group.filter given.contains).length then fail 1 ("cannot combine " ++ text)

def settle (s : Said) : Tool Wanted := do
  let w := s.wanted
  let some_ (n : Nat) : Nat := if n == 0 then 512 else n
  let inputBlock := if s.block != 0 then s.block else some_ s.inputBlock
  let outputBlock := if s.block != 0 then s.block else some_ s.outputBlock
  if w.outputFlags.contains "fullblock" then misuse 1 ("invalid output flag: " ++ quote "fullblock")
  refuseBoth w.conversions ["ascii", "ebcdic", "ibm"] "any two of \x7bascii,ebcdic,ibm\x7d"
  let makesRecords := ["block", "ebcdic", "ibm"].any w.conversions.contains
  let makesLines := ["unblock", "ascii"].any w.conversions.contains
  if makesRecords && makesLines && w.record != 0 then fail 1 "cannot combine block and unblock"
  refuseBoth w.conversions ["lcase", "ucase"] "lcase and ucase"
  refuseBoth w.conversions ["excl", "nocreat"] "excl and nocreat"
  refuseBoth w.inputFlags ["direct", "nocache"] "direct and nocache"
  refuseBoth w.outputFlags ["direct", "nocache"] "direct and nocache"
  let changing := ["ascii", "ebcdic", "ibm", "block", "unblock", "lcase", "ucase", "swab"]
  let has (flag : String) (isBytes : Bool) : Bool := isBytes || w.inputFlags.contains flag
  return { w with
    inputBlock, outputBlock
    isDirect := s.block != 0 && !changing.any w.conversions.contains
    skip := extentOf inputBlock s.skip.1 (has "skip_bytes" s.skip.2)
    seek := extentOf outputBlock s.seek.1 (s.seek.2 || w.outputFlags.contains "seek_bytes")
    count := s.count.map fun (n, isBytes) => extentOf inputBlock n (has "count_bytes" isBytes) }

/-- Whether blocks that come short are told of. -/
def Wanted.watches (w : Wanted) : Bool :=
  w.isDirect && !w.inputFlags.contains "fullblock" &&
    (w.skip.blocks != 0 || w.count.any (0 < ·.blocks) || w.inputFlags.contains "direct" ||
      w.outputFlags.contains "direct")

def copyAll (w : Wanted) (source target : Nat) : Copying Nat := do
  if !w.skip.isZero then skipInput w source
  if !w.seek.isZero then skipOutput w target
  let code ← if w.count.any Extent.isZero then pure 0 else do
    let code ← copy w source target Act.manyReads
    finish w target
    pure code
  let code ← if !(w.converts "fsync" || w.converts "fdatasync") then pure code
    else if (← do_ (regularAt? target)).isSome then pure code
    else do
      do_ (warnOf ("fsync failed for " ++ shellQuoted w.outputName) .invalidArgument)
      pure 1
  report w
  return code

end Blocks

open Blocks in
def dd (call : Call) : Tool Nat := do
  let p ← parse [] false 1 call.operands
  let w ← settle (← p.operands.foldlM addOperand {})
  let source ← openInput w
  let target ← openOutput w
  let start ← act Act.now
  let (code, _) ← (copyAll w source target).run { start, watched := if w.watches then some 0 else none }
  return code

end PipeShell.Host.Tool
