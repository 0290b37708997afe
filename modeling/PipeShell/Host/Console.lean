import PipeShell.Editor.Basic
import PipeShell.Editor.Line
import PipeShell.Host.Machine
import PipeShell.Interaction

/-! # Consoles

A shell on a machine: it writes to the machine's output, its lines come from the standard input
through the editor, its directory is that of its task and its children run there. -/

namespace PipeShell.Host

structure Console where
  machine : Machine
  editor : Editor := {}
  /-- What has been read of the standard input. -/
  input : ByteArray := .empty
  /-- Where the next line begins in it. -/
  lineStart : Nat := 0
  /-- The editor has failed for good, and the program with it. -/
  abandoned : Bool := false

namespace Console

def log (record : Log.Record) (c : Console) : Console :=
  { c with machine := { c.machine with records := c.machine.records ++ [record] } }

/-- A call of the shell's task. -/
def call {α : Type} (f : World → α × World) (c : Console) : α × Console :=
  let (answer, machine) := c.machine.call f
  (answer, { c with machine })

/-- A call of the shell's task that nobody else could answer, so that it never waits. -/
def callNow {α : Type} (f : World → Option (Except Errno α × World)) (c : Console) :
    Except IoError α × Console :=
  let (answer, c) := c.call fun w => (f w).getD (.error .tryAgain, w)
  (answer.mapError .os, c)

def print (text : String) (c : Console) : Except IoError Unit × Console :=
  let (answer, c) := c.callNow (World.write 1 text.toUTF8)
  (answer.map fun _ => (), c)

/-- The file system has no name that holds a NUL. -/
def checkName (path : String) : Except IoError Unit :=
  if path.contains '\x00' then throw (.other "file name contained an unexpected NUL byte")
  else pure ()

/-- A call on the file system, as the shell sees its failure. -/
def attempt {α : Type} (path : String) (call : Except Errno α) : Except IoError α := do
  checkName path
  call.mapError .os

def files (c : Console) : FileSystem := c.machine.world.files

/-- The bytes of a file. -/
def contents (path : String) (c : Console) : Except IoError ByteArray :=
  attempt path (c.files.contents c.machine.cwd (ByteText.ofText path))

/-! ## The editor -/

/-- Opens the editor with a history file, if there is to be one. -/
def openEditor (path : Option String) (c : Console) : Console :=
  let (editor, records) := Editor.opened path c.contents
  records.foldl (fun c record => c.log record) { c with editor }

/-- How much is read at a time. -/
def blockSize : Nat := 8192

/-- Reads until the next line is there, or all of the input. The number bounds how many blocks that
takes. -/
def fill (c : Console) : Nat → Except IoError Unit × Console
  | 0 => (.ok (), c)
  | blocks + 1 =>
    if (c.input.findIdx? (· == 10) c.lineStart).isSome then (.ok (), c)
    else match c.callNow (World.read 0 blockSize) with
      | (.error e, c) => (.error e, c)
      | (.ok block, c) =>
        if block.isEmpty then (.ok (), c)
        else fill { c with input := c.input ++ block } blocks

/-- More blocks than any input has. -/
def manyBlocks : Nat := 1000000

/-- Reads the next line of an input that is no terminal. -/
def readInput (c : Console) : Except ReadError String × Console :=
  match c.fill manyBlocks with
  | (.error e, c) => (.error (.io e), c)
  | (.ok (), c) => match Editor.readAt c.input c.lineStart with
    | (.read attempted, lineStart) => (attempted, { c with lineStart })
    | (.abandoned, lineStart) => (.error .endOfInput, { c with lineStart, abandoned := true })

/-- What the line reader says about where lines come from. -/
def origin (plain : Bool) : Log.Record :=
  ⟨.lineReader, .debug, if plain then "unsupported terminal" else "stdin is not a tty"⟩

/-- Attempts to read a line. The prompt is written only to a plain terminal. -/
def attemptLine (prompt : String) (c : Console) : Except ReadError String × Console :=
  let plain := Editor.isPlainTerminal (c.machine.environment.text? "TERM")
  let c := c.log (origin plain)
  if plain then match c.print prompt with
    | (.error e, c) => (.error (.io e), c)
    | (.ok (), c) => c.readInput
  else c.readInput

/-- Writes the history to a file, if there is anything new in it. -/
def writeHistory (file : String) (c : Console) : Except IoError Unit × Console :=
  match c.editor.toSave with
  | none => (.ok (), c)
  | some (_, text) =>
    let written := c.files.writeFile c.machine.cwd (ByteText.ofText file) text.toUTF8
    match attempt file written with
    | .ok files => (.ok (), { c with
        machine := { c.machine with world := { c.machine.world with files } }
        editor := c.editor.saved })
    | .error e => (.error e, c)

/-- The reader of lines on which the editor rests. -/
def lineReader : Editor.LineReader Console where
  attempt := attemptLine
  add line c := (.ok (), { c with editor := c.editor.add line })
  save := writeHistory
  log := log

def readLine (prompt : String) (c : Console) : Except ReadError Input × Console :=
  (Editor.readLine prompt).run lineReader c

def saveHistory (c : Console) : Console := (c.editor.saveHistory.run lineReader c).2

/-! ## The directory -/

/-- The bytes of the directory's name. -/
def currentPath (c : Console) : Except IoError ByteText :=
  (c.files.pathOf c.machine.cwd).mapError .os

def currentDir (c : Console) : Except IoError String := c.currentPath.map ByteText.toText

def changeDir (target : String) (c : Console) : Except IoError Unit × Console :=
  match attempt target (c.files.resolveDirectory c.machine.cwd (ByteText.ofText target)) with
  | .ok cwd => (.ok (), { c with machine := c.machine.setCwd cwd })
  | .error e => (.error e, c)

/-! ## All partners -/

def partners : Surroundings Console where
  write := print
  flush c := (.ok (), c)
  readLine := readLine
  saveHistory := saveHistory
  currentDir c := (c.currentDir, c)
  changeDir := changeDir
  launch command c :=
    let launched := c.machine.launch command
    (launched.1, { c with machine := launched.2 })
  interrupts c := (c.machine.world.interrupts, c)
  log := log

/-- Makes the shell count interrupts instead of dying of them. -/
def installHandler (c : Console) : Console :=
  let world := { c.machine.world with handlesInterrupts := true }
  { c with machine := { c.machine with world } }.log (Signal.installedRecord Signal.interrupt)

end Console
end PipeShell.Host
