/-! # Descriptor tables

Each process has a table from descriptors to what they stand for. Creating a process copies the
table, duplicating a descriptor clears its close-on-exec mark, and a new image loses the marked
entries. -/

namespace PipeShell.Launch

/-- A number under which a process holds an open resource. -/
abbrev Fd := Nat

/-- What a descriptor can stand for: the standard streams of the shell, or an end of a pipe. -/
inductive Resource where
  | input | output | errors
  | readEnd (pipe : Nat)
  | writeEnd (pipe : Nat)
  deriving DecidableEq, Repr

structure Descriptor where
  resource : Resource
  closeOnExec : Bool := false
  deriving DecidableEq, Repr

/-- The descriptors that a process holds. -/
abbrev Table := Fd → Option Descriptor

namespace Table

/-- The three standard streams and nothing else. -/
def standard : Table
  | 0 => some { resource := .input }
  | 1 => some { resource := .output }
  | 2 => some { resource := .errors }
  | _ => none

def set (t : Table) (fd : Fd) (entry : Option Descriptor) : Table :=
  fun other => if other = fd then entry else t other

def close (t : Table) (fd : Fd) : Table := t.set fd none

/-- Makes `target` stand for what `source` does; nothing if `source` is not open. A descriptor
duplicated onto itself stays as it is. -/
def dup2 (t : Table) (source target : Fd) : Option Table :=
  match t source with
  | none => none
  | some d =>
    if source = target then some t else some (t.set target (some { d with closeOnExec := false }))

/-- What a new image inherits. -/
def exec (t : Table) : Table := fun fd => (t fd).filter (!·.closeOnExec)

/-- The lowest descriptor below `limit` that is not open. -/
def free? (t : Table) (limit : Nat) : Option Fd :=
  (List.range limit).find? fun fd => (t fd).isNone

end Table
end PipeShell.Launch
