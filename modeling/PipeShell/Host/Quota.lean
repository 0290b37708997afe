/-! # Limits of tasks

What a task may use of the machine. A limit is in force up to a bound that can be lowered but not
raised. -/

namespace PipeShell.Host

/-- What a limit is on. -/
inductive Resource where
  | time | fileSize | data | stack | coreSize | memory | lockedMemory | tasks | descriptors
  | addressSpace | locks | priority
  deriving DecidableEq, Repr

/-- A limit and how far it may be raised; nothing where there is no end. -/
structure Quota where
  soft : Option Nat := none
  hard : Option Nat := none
  deriving DecidableEq, Repr

namespace Quota

/-- Whether one bound is at most another. -/
def isWithin : Option Nat → Option Nat → Bool
  | _, none => true
  | none, some _ => false
  | some n, some most => n ≤ most

/-- What is wrong with a limit that is to replace this one. -/
def refusal? (old new : Quota) : Option String :=
  if !isWithin new.soft new.hard then some "Invalid argument"
  else if !isWithin new.hard old.hard then some "Operation not permitted"
  else none

end Quota

/-- The limit that a task has when nobody has changed it. -/
def Resource.quota : Resource → Quota
  | .stack => { soft := some (8192 * 1024) }
  | .coreSize => { soft := some 0 }
  | .lockedMemory => { soft := some (8192 * 1024), hard := some (8192 * 1024) }
  | .descriptors => { soft := some 1048576, hard := some 1048576 }
  | .priority => { soft := some 0, hard := some 0 }
  | _ => {}

end PipeShell.Host
