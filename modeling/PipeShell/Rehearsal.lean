import PipeShell.Shell.Step

/-! # Rehearsals

A session held with partners that exist only in memory: scripted input, a flat directory without
links or relative names, an output that stops where it is told to, and a launcher that starts
nothing and answers what it was told to answer. -/

namespace PipeShell.Rehearsal

/-- Directories known by their full names. Names are joined, never resolved. -/
structure Directory where
  current : String := "/"
  existing : List String := []
  /-- The current directory cannot be read while this is set. -/
  broken : Bool := false
  deriving Repr

namespace Directory

/-- The name that a path means in this directory. -/
def target (d : Directory) (path : String) : String :=
  if path.startsWith "/" then path
  else if d.current.endsWith "/" then d.current ++ path
  else d.current ++ "/" ++ path

def read (d : Directory) : Except IoError String :=
  if d.broken then throw (.other "directory vanished") else pure d.current

/-- Moves to a directory that exists; a failed change leaves everything as it was. -/
def change (d : Directory) (path : String) : Except IoError Directory :=
  if d.existing.contains (d.target path) then pure { d with current := d.target path }
  else throw (.other "No such file or directory")

end Directory

/-- An output that accepts a number of bytes and then fails. -/
structure Sink where
  accepted : List UInt8 := []
  /-- How many more bytes are accepted; without a budget all are. -/
  budget : Option Nat := none
  /-- Whether one failure is the last one. -/
  recover : Bool := false
  flushFails : Bool := false
  deriving Repr

namespace Sink

def write (sink : Sink) (text : String) : Except IoError Unit × Sink :=
  let bytes := Text.utf8 text
  match sink.budget with
  | none => (.ok (), { sink with accepted := sink.accepted ++ bytes })
  | some left =>
    if bytes.length ≤ left then
      (.ok (), { sink with accepted := sink.accepted ++ bytes, budget := some (left - bytes.length) })
    else
      (.error (.other "reader went away"),
        { sink with
          accepted := sink.accepted ++ bytes.take left
          budget := if sink.recover then none else some 0 })

def flush (sink : Sink) : Except IoError Unit :=
  if sink.flushFails then throw (.other "flush refused") else pure ()

end Sink

/-- What the launcher answers to every launch. -/
structure Launcher where
  /-- The reason for which all launches fail. -/
  failure : Option LaunchError := none
  /-- The statuses by stage; a stage beyond the list exits with 0. -/
  statuses : List (Option ExitStatus) := []
  /-- How often the interrupt handler is called during a launch. -/
  interrupts : Nat := 0
  deriving Repr

def Launcher.children (launcher : Launcher) (command : Command) : List Child :=
  command.stages.mapIdx fun i _ => ⟨1000 + i, launcher.statuses.getD i (some (.exited 0))⟩

/-- All partners of a rehearsed session and what they have seen. -/
structure Stage where
  directory : Directory := {}
  sink : Sink := {}
  launcher : Launcher := {}
  queue : List (Except ReadError Input) := []
  interrupts : UInt64 := 0
  /-- What the interrupt handler wrote to standard output. -/
  terminal : String := ""
  launches : List Command := []
  prompts : List String := []
  records : List Log.Record := []

namespace Stage

/-- Calls the interrupt handler. -/
def interrupt (s : Stage) : Stage :=
  let (count, text) := Signal.handle Signal.interrupt s.interrupts
  { s with interrupts := count, terminal := s.terminal ++ text }

def launch (command : Command) (s : Stage) : Except LaunchError (List Child) × Stage :=
  let s := Nat.repeat interrupt s.launcher.interrupts { s with launches := s.launches ++ [command] }
  match s.launcher.failure with
  | some e => (.error e, s)
  | none => (.ok (s.launcher.children command), s)

def readLine (prompt : String) (s : Stage) : Except ReadError Input × Stage :=
  let s := { s with prompts := s.prompts ++ [prompt] }
  match s.queue with
  | [] => (.ok .endOfInput, s)
  | item :: queue => (item, { s with queue })

/-- The partners that answer from a stage. -/
def partners : Surroundings Stage where
  write text s := let (answer, sink) := s.sink.write text; (answer, { s with sink })
  flush s := (s.sink.flush, s)
  readLine := readLine
  saveHistory s := s
  currentDir s := (s.directory.read, s)
  changeDir path s := match s.directory.change path with
    | .ok directory => (.ok (), { s with directory })
    | .error e => (.error e, s)
  launch := launch
  interrupts s := (s.interrupts, s)
  log record s := { s with records := s.records ++ [record] }

end Stage

/-- Runs a session to its end. Each step but the last takes one item off the queue, so this many
steps are enough. -/
def run (shell : Shell) (s : Stage) : Flow × Stage :=
  (shell.steps (s.queue.length + 1)).run Stage.partners s

end PipeShell.Rehearsal
