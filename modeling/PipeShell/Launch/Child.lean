import PipeShell.Launch.Descriptors
import PipeShell.Launch.Program

/-! # Children

A new process first arranges its descriptors and then becomes its program. If it cannot, it says
so on its error stream and exits with 127; if a descriptor cannot be arranged it exits with 126. -/

namespace PipeShell.Launch

/-- What a child is to become, which descriptors become its standard input and output, and which
ones it has no use for. -/
structure ChildPlan where
  program : Program
  stdin : Option Fd := none
  stdout : Option Fd := none
  unused : List Fd := []

/-- The system calls of a child. -/
inductive ChildCall where
  | dup2 (source target : Fd)
  | close (fd : Fd)
  | defaultSigpipe
  | exec (program : Program)
  | write (fd : Fd) (bytes : List UInt8)
  | exit (code : Nat)

def redirectFailed : Nat := 126

def notFound : Nat := 127

/-- The calls in order. Standard descriptors are never closed; the broken-pipe signal gets its
default effect back because an ignored one would stay ignored in the new image. -/
def ChildPlan.calls (plan : ChildPlan) : List ChildCall :=
  (plan.stdin.map (.dup2 · 0)).toList ++ (plan.stdout.map (.dup2 · 1)).toList ++
    (plan.unused.filter (2 < ·)).map .close ++
    [.defaultSigpipe, .exec plan.program, .write 2 plan.program.notFound, .exit notFound]

/-- A process between its creation and its end. -/
inductive Process where
  /-- Calls are left to be made. -/
  | starting (calls : List ChildCall) (table : Table)
  /-- The process has become its program. -/
  | replaced (program : Program) (table : Table)
  | ended (code : Nat)

namespace Process

def created (plan : ChildPlan) (table : Table) : Process := starting plan.calls table

/-- Makes the next call, given whether a program can be executed. -/
def step (executes : Program → Bool) : Process → Process
  | starting [] _ => ended 0
  | starting (call :: calls) table => match call with
    | .dup2 source target => match table.dup2 source target with
      | some table => starting calls table
      | none => ended redirectFailed
    | .close fd => starting calls (table.close fd)
    | .defaultSigpipe | .write .. => starting calls table
    | .exec program =>
      if executes program then replaced program table.exec else starting calls table
    | .exit code => ended code
  | p => p

/-- What the next call writes, and to which descriptor. -/
def writes : Process → Option (Fd × List UInt8)
  | starting (.write fd bytes :: _) _ => some (fd, bytes)
  | _ => none

/-- Whether no call is left. -/
def isStarted : Process → Bool
  | starting .. => false
  | _ => true

/-- What the process holds. -/
def table : Process → Table
  | starting _ t | replaced _ t => t
  | ended _ => fun _ => none

end Process
end PipeShell.Launch
