import PipeShell.Host.Act
import PipeShell.Host.Tool.Quoting

/-! # Tools

The programs that every host provides. A tool collects what it writes and puts it out in blocks,
before each message, and at its end. -/

namespace PipeShell.Host

/-- What a tool is called with. -/
structure Call where
  /-- The name it was called by. -/
  name : String
  operands : List String
  environment : List String
  exec : Act.Exec

namespace Tool

/-- The value of a variable among the entries of an environment. -/
def valueIn (environment : List String) (name : String) : Option String :=
  (environment.find? (·.startsWith (name ++ "="))).map fun entry =>
    String.ofList (entry.toList.drop (name.length + 1))

structure State where
  name : String
  encoding : Encoding := .bytes
  /-- Whether the first operand ends the options of every tool. -/
  isStrict : Bool := false
  /-- What has been written and not been put out. -/
  pending : ByteArray := .empty

end Tool

/-- A computation of a tool, which may end early with a code. -/
abbrev Tool := ExceptT Nat (StateT Tool.State Act)

namespace Tool

variable {α : Type}

def act (a : Act α) : Tool α := ExceptT.lift (StateT.lift a)

/-! ## Output -/

/-- A message as it is written here. -/
def shown (m : Message) : Tool String := return m.shown (← get).encoding

/-- Writes to the error output at once. -/
def note (text : Message) : Tool Unit := do
  let _ ← act (Act.write 2 (ByteText.toBytes (← shown text)))

/-- Ends the tool because its output cannot be written. -/
def failWriting (e : Errno) : Tool α := do
  modify fun s => { s with pending := .empty }
  note ((← get).name ++ ": write error: " ++ e.message ++ "\n")
  throw 1

/-- Puts out what is pending. -/
def flush : Tool Unit := do
  let s ← get
  if !s.pending.isEmpty then
    set { s with pending := .empty }
    match ← act (Act.write 1 s.pending) with
    | .ok () => pure ()
    | .error e => failWriting e

/-- How much is collected before it is put out. -/
def bufferSize : Nat := 4096

def put (bytes : ByteArray) : Tool Unit := do
  modify fun s => { s with pending := s.pending ++ bytes }
  if bufferSize ≤ (← get).pending.size then flush

def print (text : Message) : Tool Unit := do put (ByteText.toBytes (← shown text))

/-- A message with the tool's name in front. -/
def warn (text : Message) : Tool Unit := do
  flush
  note ((← get).name ++ ": " ++ text ++ "\n")

def warnOf (text : Message) (e : Errno) : Tool Unit := warn (text ++ ": " ++ e.message)

/-- Ends the tool with a message. -/
def fail (code : Nat) (text : Message) : Tool α := do
  warn text
  throw code

/-- Says where help is to be found, and ends the tool. -/
def tryHelp (code : Nat) : Tool α := do
  note ("Try '" ++ (← get).name ++ " --help' for more information.\n")
  throw code

/-- Ends the tool because it was called in a wrong way. -/
def misuse (code : Nat) (text : Message) : Tool α := do
  warn text
  tryHelp code

def missingOperand (code : Nat) : Tool α := misuse code "missing operand"

def missingAfter (code : Nat) (operand : String) : Tool α :=
  misuse code ("missing operand after " ++ quote operand)

def extraOperand (code : Nat) (operand : String) : Tool α :=
  misuse code ("extra operand " ++ quote operand)

/-- The variable that makes tools strict about the order of options and operands. -/
def strictVariable : String := "POSIXLY_CORRECT"

/-- Runs a tool to its end. -/
def run (name : String) (environment : List String) (body : Tool Nat) : Act Nat := do
  let whole : Tool Nat := do
    let code ← body
    flush
    return code
  let (result, s) ← StateT.run (ExceptT.run whole) {
    name, encoding := .ofEnvironment environment
    isStrict := (valueIn environment strictVariable).isSome }
  match result with
  | .ok code => return code
  | .error code =>
    -- What is pending when a tool ends early is put out all the same.
    let (last, _) ← StateT.run (ExceptT.run flush) s
    return match last with
      | .ok () => code
      | .error failed => failed

/-! ## Input -/

/-- Opens the file that an operand names; a dash is the standard input. -/
def openOperand (name : String) : Tool (Except Errno Nat) :=
  if name == "-" then return .ok 0 else act (Act.openFile name { read := true })

/-- The regular file that a descriptor leads to: its node, its bytes and the position in it. -/
def regularAt? (fd : Nat) : Tool (Option (Inode × ByteArray × Nat)) := do
  match ← act (Act.nodeAt? fd) with
  | none => return none
  | some (i, position) =>
    let content ← act (Act.files fun fs _ => fs.fileContent? i)
    return content.map fun bytes => (i, bytes, position)

def closeOperand (fd : Nat) : Tool Unit := if fd == 0 then pure () else act (Act.close fd)

/-- The operands, or the standard input if there are none. -/
def orInput (names : List String) : List String := if names.isEmpty then ["-"] else names

/-- Goes through what can be read, block by block, until `f` has enough. The number bounds how many
blocks there are. -/
def forBlocks {σ : Type} (fd size : Nat) (f : σ → ByteArray → Tool (σ × Bool)) (s : σ) :
    Nat → Tool (σ × Option Errno)
  | 0 => return (s, none)
  | fuel + 1 => do
    match ← act (Act.read fd size) with
    | .error e => return (s, some e)
    | .ok bytes =>
      if bytes.isEmpty then return (s, none)
      let (s, enough) ← f s bytes
      if enough then return (s, none)
      forBlocks fd size f s fuel

/-- Goes through the lines of a block. What stands behind the last line break is left over. -/
def linesIn {σ : Type} (stop : UInt8) (f : σ → ByteArray → σ) (s : σ) (bytes : ByteArray) (start : Nat) :
    Nat → σ × ByteArray
  | 0 => (s, bytes.extract start bytes.size)
  | fuel + 1 => match bytes.findIdx? (· == stop) start with
    | none => (s, bytes.extract start bytes.size)
    | some i => linesIn stop f (f s (bytes.extract start i)) bytes (i + 1) fuel

/-- Goes through all lines that can be read; `f` adds to the output, and is told of a last line that
nothing ends. -/
def forLines {σ : Type} (fd : Nat) (stop : UInt8)
    (f : σ → ByteArray → ByteArray → (ended : Bool) → σ × ByteArray) (s : σ) :
    Tool (σ × Option Errno) := do
  let step (state : σ × ByteArray) (block : ByteArray) : Tool ((σ × ByteArray) × Bool) := do
    let (s, left) := state
    let bytes := if left.isEmpty then block else left ++ block
    let ((s, out), left) :=
      linesIn stop (fun (s, out) line => f s out line true) (s, ByteArray.empty) bytes 0 bytes.size
    put out
    return ((s, left), false)
  let ((s, left), failure) ← forBlocks fd Act.blockSize step (s, .empty) Act.manyReads
  if left.isEmpty then return (s, failure)
  let (s, out) := f s .empty left false
  put out
  return (s, failure)

/-- All that can be read, with what prevented more. -/
def readWhole (fd : Nat) : Tool (ByteArray × Option Errno) :=
  forBlocks fd Act.blockSize (fun all bytes => return (all ++ bytes, false)) .empty Act.manyReads

/-- The lines of bytes, and whether the last one is ended. -/
def linesOf (stop : UInt8) (bytes : ByteArray) : Array ByteArray × Bool :=
  let (lines, left) := linesIn stop (fun (ls : Array ByteArray) l => ls.push l) #[] bytes 0 bytes.size
  if left.isEmpty then (lines, true) else (lines.push left, false)

/-- An input that is read line by line. -/
structure LineInput where
  fd : Nat
  /-- What has been read and not been taken, from `start` on. -/
  buffer : ByteArray := .empty
  start : Nat := 0
  isOver : Bool := false
  failure : Option Errno := none

namespace LineInput

/-- Takes the next line. The number bounds how many blocks it lies in. -/
def next (stop : UInt8) (input : LineInput) : Nat → Tool (Option ByteArray × LineInput)
  | 0 => return (none, input)
  | fuel + 1 => match input.buffer.findIdx? (· == stop) input.start with
    | some i => return (some (input.buffer.extract input.start i), { input with start := i + 1 })
    | none => do
      let left := input.buffer.extract input.start input.buffer.size
      if input.isOver then
        return (if left.isEmpty then none else some left, { input with buffer := .empty, start := 0 })
      match ← act (Act.read input.fd Act.blockSize) with
      | .error e => return (none, { input with buffer := .empty, start := 0, isOver := true, failure := some e })
      | .ok block =>
        let isOver := block.isEmpty
        next stop { input with buffer := left ++ block, start := 0, isOver } fuel

end LineInput

/-! ## The file system -/

def files (f : FileSystem → Inode → α) : Tool α := act (Act.files f)

def changeFiles (f : FileSystem → Inode → Except Errno FileSystem) : Tool (Except Errno Unit) :=
  act (Act.changeFiles f)

end Tool
end PipeShell.Host
