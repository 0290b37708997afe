import PipeShell.Host.Installation
import PipeShell.Host.Program
import Std.Time

/-! # The command line

Reads the standard input to its end, runs the shell on a machine of its own, whose files are not
those of the system, and writes what the run has left behind. -/

namespace PipeShell

/-- The variables that the shell and its programs look at. -/
def variableNames : List String := ["USER", "LOGNAME", "TERM", "STSH_LOG"]

def readEnvironment : IO Host.Environment := do
  let given ← variableNames.filterMapM fun name => do
    return (← IO.getEnv name).map fun value => (name, value.toUTF8)
  return [("PATH", "/usr/bin:/bin".toUTF8), ("LC_ALL", "C".toUTF8)] ++ given

/-- Everything that is left in a stream. -/
partial def readAll (stream : IO.FS.Stream) (done : ByteArray) : IO ByteArray := do
  let bytes ← stream.read 65536
  if bytes.isEmpty then return done
  readAll stream (done ++ bytes)

/-- The time as it stands in log lines. -/
def timeText : IO String := do
  let time := Std.Time.DateTime.ofTimestamp (← Std.Time.Timestamp.now) .UTC
  return time.format "uuuu-MM-dd'T'HH:mm:ss'Z'"

end PipeShell

open PipeShell in
def main (arguments : List String) : IO UInt32 := do
  let environment ← readEnvironment
  let input ← readAll (← IO.getStdin) .empty
  let files := Host.FileSystem.standard
  let machine := Host.Machine.ofFiles files Host.FileSystem.root input .shown
  let report := Host.Program.run (← timeText) (arguments.map String.toUTF8) input
    { machine with environment }
  (← IO.getStdout).write report.machine.world.output
  (← IO.getStderr).write report.machine.world.errors
  return report.status
