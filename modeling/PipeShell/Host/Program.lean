import PipeShell.Host.Console
import PipeShell.Log.Filter
import PipeShell.Settings.Basic
import PipeShell.Shell.Session

/-! # The program

A run of the shell as a program: from its arguments, environment and input to its exit status and
what it writes. Log records go to the error output as they are made, if the filter shows them. -/

namespace PipeShell.Host

/-- What a run of the program leaves behind. -/
structure Report where
  status : UInt32
  machine : Machine

/-- What is learnt of a run by whoever has started it and waits for it: nothing if its children are
forgotten when they end. -/
def Report.awaited (forgets : Bool) (report : Report) : Except Errno Report :=
  if forgets then throw .noChild else pure report

namespace Program

/-- The variable that holds the log filter. -/
def filterVariable : String := "STSH_LOG"

/-- The log filter and what is wrong with it. -/
def logFilter (environment : Environment) : Log.Filter × List String :=
  Log.Filter.ofString ((environment.text? filterVariable).getD Log.Level.warn.name)

section

-- The time that records are shown with, and the filter that chooses them.
variable (time : String) (filter : Log.Filter)

/-- The name of a level as wide as the widest. -/
def levelColumn (level : Log.Level) : String :=
  let name := level.name.toUpper
  name ++ String.ofList (List.replicate (5 - name.length) ' ')

def recordLine (record : Log.Record) : String :=
  s!"[{time} {levelColumn record.level} {record.source.name}] {record.text}\n"

/-- Writes to the error output, if the program is still there. -/
def complain (text : String) (c : Console) : Console :=
  if c.abandoned then c else (c.callNow (World.write 2 text.toUTF8)).2

/-- Moves the records to the error output. -/
def writeRecords (c : Console) : Console :=
  let shown := c.machine.records.filter filter.shows
  let c := { c with machine := { c.machine with records := [] } }
  complain (String.join (shown.map (recordLine time))) c

/-- The console's partners, with records that are written at once. -/
def partners : Surroundings Console :=
  let write := writeRecords time filter
  { Console.partners with
    readLine := fun prompt c =>
      let (item, c) := Console.partners.readLine prompt c
      (item, write c)
    saveHistory := fun c => if c.abandoned then c else write c.saveHistory
    launch := fun command c =>
      let (answer, c) := Console.partners.launch command c
      (answer, write c)
    log := fun record c => write (c.log record) }

end

/-- A session takes a line of input at each step but the last, so this many steps are enough, unless
a program that is launched adds to the input. -/
def turns (input : ByteArray) : Nat := input.size + 1

/-- The shell that these settings ask for on a machine. -/
def shell (settings : Settings) (machine : Machine) : Shell :=
  { user := machine.environment.user, limits := settings.limits }

/-- What the program does once it knows its settings: a session of that shell, of at most `turns`
steps. Its value is the status of the program. -/
def conversation (settings : Settings) (machine : Machine) (turns : Nat) : Interaction UInt32 := do
  (shell settings machine).session (!settings.noBanner) turns
  return 0

/-- The console as the session finds it. -/
def prepared (time : String) (filter : Log.Filter) (settings : Settings) (c : Console) : Console :=
  writeRecords time filter (c.installHandler.openEditor settings.history)

/-- Runs a session with these settings on a console that has this input. -/
def session (time : String) (filter : Log.Filter) (settings : Settings) (input : ByteArray)
    (c : Console) : UInt32 × Console :=
  (conversation settings c.machine (turns input)).run (partners time filter)
    (prepared time filter settings c)

/-- The status of a program that has been abandoned. -/
def abandonedStatus : UInt32 := 101

/-- What is said about arguments that are not understood. -/
def refusal (e : Settings.Refusal) : String :=
  e.message ++ "\nRun stsh --help for more information.\n"

/-- The arguments as texts, or the first that is none. -/
def texts (arguments : List ByteArray) : Except ByteArray (List String) :=
  arguments.mapM fun bytes => match Text.ofUtf8? bytes with
    | some text => .ok text
    | none => .error bytes

/-- The console of a machine, once it has been said what is wrong with the log filter. -/
def opened (mistakes : List String) (machine : Machine) : Console := mistakes.foldl
  (fun c mistake => complain s!"warning: {mistake}, ignoring it\n" c) { machine }

/-- A run of the program on a machine that has this input. What is wrong with the log filter is
said before the arguments are looked at. -/
def run (time : String) (arguments : List ByteArray) (input : ByteArray) (machine : Machine) :
    Report :=
  let (filter, mistakes) := logFilter machine.environment
  let c := opened mistakes machine
  let refuse (text : String) : Report := { status := 1, machine := (complain text c).machine }
  match texts arguments with
  | .error bytes => refuse s!"Invalid utf8: {Text.lossy bytes}\n"
  | .ok arguments => match Settings.ofArgs arguments with
    | .error .help => match c.print (Settings.usage ++ "\n") with
      | (.ok (), c) => { status := 0, machine := c.machine }
      | (.error _, c) => { status := abandonedStatus, machine := c.machine }
    | .error e => refuse (refusal e)
    | .ok settings =>
      let (status, c) := session time filter settings input c
      { status := if c.abandoned then abandonedStatus else status, machine := c.machine }

end Program
end PipeShell.Host
