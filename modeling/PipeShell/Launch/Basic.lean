import PipeShell.Argv.Basic
import PipeShell.Errno
import PipeShell.Text.Quoted

/-! # Commands and their outcomes

What a launch is given, one program or two joined by a pipe, and what it gives back: the children
in the order of the stages, each with the status it ended with, or the reason why there are none. -/

namespace PipeShell

/-- The tokens as log records show them. -/
def Argv.shown (argv : Argv) : String :=
  "ArgumentVector([" ++ ", ".intercalate (argv.tokens.map Text.quoted) ++ "])"

/-- What is launched for one line. -/
inductive Command where
  | single (argv : Argv)
  | piped (producer consumer : Argv)
  deriving DecidableEq, Repr

namespace Command

/-- The argument vectors, one per stage. -/
def stages : Command → List Argv
  | single argv => [argv]
  | piped producer consumer => [producer, consumer]

def shown : Command → String
  | single argv => s!"Single({argv.shown})"
  | piped producer consumer => s!"Piped({producer.shown}, {consumer.shown})"

end Command

/-- How a process ended. -/
inductive ExitStatus where
  | exited (code : Int)
  | signaled (signal : Int)
  deriving DecidableEq, Repr

namespace ExitStatus

/-- Reads the word that a wait reports. The low seven bits are the signal that ended the process;
if they are zero the process exited by itself and the next eight bits are its code. The bit
between them tells of a core dump and decides nothing. All seven bits set mean a stopped process. -/
def ofRaw (raw : UInt32) : ExitStatus :=
  let low := raw &&& 0x7F
  if low = 0 ∨ low = 0x7F then exited ((raw >>> 8) &&& 0xFF).toNat else signaled low.toNat

def shown : ExitStatus → String
  | exited code => s!"Exited({code})"
  | signaled signal => s!"Signaled({signal})"

end ExitStatus

/-- A process that was started. Its status is there once it has been waited for. -/
structure Child where
  pid : Nat
  status : Option ExitStatus
  deriving DecidableEq, Repr

def Child.shownStatus (child : Child) : String :=
  match child.status with
  | none => "None"
  | some status => s!"Some({status.shown})"

/-- Why a launch failed. -/
inductive LaunchError where
  | syscall (errno : Errno)
  | invalidArgument (nul : NulByte)
  | emptyCommand
  deriving DecidableEq, Repr

def LaunchError.message : LaunchError → String
  | syscall errno => errno.message
  | invalidArgument nul => s!"invalid argument: {nul.message}"
  | emptyCommand => "empty command"

end PipeShell
