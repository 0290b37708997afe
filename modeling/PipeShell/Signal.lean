import PipeShell.Errno
import PipeShell.Log

/-! # Interrupts

The interrupt handler counts the SIGINTs it gets in a 64-bit word that wraps around, and tells the
user how to leave. Nothing resets the count; two readings that differ show that an interrupt
arrived in between. -/

namespace PipeShell

/-- What the user is told on an interrupt. -/
def interruptHint : String := "Use 'exit' to quit the shell."

namespace Signal

/-- The signal that a terminal sends on Ctrl-C. -/
def interrupt : Int := 2

/-- What the handler writes to standard output. -/
def interruptText : String := "\n" ++ interruptHint ++ "\n"

/-- One call of the handler: the new count and what is written. Other signals are ignored. -/
def handle (signal : Int) (count : UInt64) : UInt64 × String :=
  if signal = interrupt then (count + 1, interruptText) else (count, "")

/-- Whether the system lets a process handle this signal. SIGKILL and SIGSTOP cannot be handled,
and the first two real-time signals belong to the thread library. -/
def canHandle (signal : Int) : Bool :=
  1 ≤ signal && signal ≤ 64 && !([9, 19, 32, 33] : List Int).contains signal

/-- The signals whose disposition is the interrupt handler. -/
structure Dispositions where
  handled : List Int := []
  deriving DecidableEq, Repr

namespace Dispositions

/-- Makes the handler the disposition of a signal. -/
def install (d : Dispositions) (signal : Int) : Except Errno Dispositions :=
  if canHandle signal then pure ⟨signal :: d.handled⟩ else throw .invalidArgument

def isInstalled (d : Dispositions) (signal : Int) : Bool := d.handled.contains signal

end Dispositions

def installedRecord (signal : Int) : Log.Record :=
  ⟨.signal, .debug, s!"installed handler for signal {signal}"⟩

end Signal
end PipeShell
