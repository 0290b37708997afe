import PipeShell.Launch.Child
import PipeShell.Log

/-! # Launching

The launcher starts one program, or two joined by a pipe, and waits for what it has started. What
is open of a pipe is closed on every way out of the scope that made it. A `Launching` is the
launcher as data: one system call after another, each with the continuation for every answer. -/

namespace PipeShell.Launch

/-- What the launcher does until it returns a value. -/
inductive Launching (α : Type) where
  | done (value : α)
  /-- Makes a pipe whose ends, the read end first, are closed on exec. -/
  | pipe (next : Except Errno (Fd × Fd) → Launching α)
  | fork (child : ChildPlan) (next : Except Errno Nat → Launching α)
  | close (fd : Fd) (next : Launching α)
  /-- Waits for one child and takes its status word. An interrupted wait is made again. -/
  | wait (pid : Nat) (next : Except Errno UInt32 → Launching α)
  | log (record : Log.Record) (next : Launching α)

namespace Launching

variable {α β γ : Type}

protected def bind (p : Launching α) (f : α → Launching β) : Launching β :=
  match p with
  | done value => f value
  | pipe next => pipe fun answer => (next answer).bind f
  | fork child next => fork child fun answer => (next answer).bind f
  | close fd next => close fd (next.bind f)
  | wait pid next => wait pid fun answer => (next answer).bind f
  | log record next => log record (next.bind f)

instance : Monad Launching where
  pure := done
  bind := Launching.bind

theorem bind_done (p : Launching α) : p.bind done = p := by
  induction p <;> simp [Launching.bind, *]

theorem bind_assoc (p : Launching α) (f : α → Launching β) (g : β → Launching γ) :
    (p.bind f).bind g = p.bind fun a => (f a).bind g := by
  induction p <;> simp [Launching.bind, *]

instance : LawfulMonad Launching :=
  LawfulMonad.mk' Launching (fun p => bind_done p) (fun _ _ => rfl) bind_assoc

/-! ## Answers -/

/-- The answer to one call. -/
inductive Reply where
  | pipe (answer : Except Errno (Fd × Fd))
  | fork (answer : Except Errno Nat)
  | closed
  | wait (answer : Except Errno UInt32)
  | logged

/-- What is left to do once the next call has been answered. An interrupted wait leaves the same;
an answer to another call than the next one means nothing. -/
def resume : Launching α → Reply → Option (Launching α)
  | pipe next, .pipe answer => some (next answer)
  | fork _ next, .fork answer => some (next answer)
  | close _ next, .closed => some next
  | wait pid next, .wait answer => match answer with
    | .error e => if e = .interrupted then some (wait pid next) else some (next (.error e))
    | .ok raw => some (next (.ok raw))
  | log _ next, .logged => some next
  | _, _ => none

/-- A kernel that answers from a state. Its waits come back when the child has ended or cannot be
waited for: interrupted ones have been made again. -/
structure Kernel (σ : Type) where
  pipe : σ → Except Errno (Fd × Fd) × σ
  fork : ChildPlan → σ → Except Errno Nat × σ
  close : Fd → σ → σ
  wait : Nat → σ → Except Errno UInt32 × σ
  log : Log.Record → σ → σ

/-- Makes all calls on a kernel. -/
def run {σ : Type} (kernel : Kernel σ) : Launching α → σ → α × σ
  | done value, s => (value, s)
  | pipe next, s =>
    let (answer, s) := kernel.pipe s
    (next answer).run kernel s
  | fork child next, s =>
    let (answer, s) := kernel.fork child s
    (next answer).run kernel s
  | close fd next, s => next.run kernel (kernel.close fd s)
  | wait pid next, s =>
    let (answer, s) := kernel.wait pid s
    (next answer).run kernel s
  | log record next, s => next.run kernel (kernel.log record s)

end Launching

/-! ## The launcher -/

def note (level : Log.Level) (text : String) : Launching Unit :=
  .log ⟨.launcher, level, text⟩ (.done ())

/-- Creates a child. -/
def spawn (plan : ChildPlan) : Launching (Except LaunchError Child) :=
  .fork plan fun
    | .error e => .done (.error (.syscall e))
    | .ok pid => do
      note .debug s!"spawned {pid}"
      return .ok ⟨pid, none⟩

/-- Waits until exactly this child has ended, and notes how. -/
def reap (child : Child) : Launching (Except LaunchError Child) :=
  .wait child.pid fun
    | .error e => .done (.error (.syscall e))
    | .ok raw => do
      let status := ExitStatus.ofRaw raw
      note .debug s!"reaped {child.pid} with {status.shown}"
      return .ok { child with status := some status }

/-- Starts one program and waits for it. Its output goes to `output`, if that is given. -/
def runSingle (output : Option Fd) (argv : Argv) : Launching (Except LaunchError (List Child)) := do
  match Program.ofArgv argv with
  | .error e => return .error e
  | .ok program =>
    match ← spawn { program, stdout := output } with
    | .error e => return .error e
    | .ok child =>
      match ← reap child with
      | .error e => return .error e
      | .ok child => return .ok [child]

/-- Waits for both children of a pipeline. Of two failed waits the producer's is reported. -/
def reapBoth (producer consumer : Child) : Launching (Except LaunchError (List Child)) := do
  let producer ← reap producer
  let consumer ← reap consumer
  match producer, consumer with
  | .error e, _ => return .error e
  | .ok _, .error e => return .error e
  | .ok producer, .ok consumer => return .ok [producer, consumer]

/-- Waits for a producer whose consumer could not be started. -/
def abandon (producer : Child) : Launching Unit := do
  match ← reap producer with
  | .error e => note .warn s!"reaping {producer.pid} failed: {e.message}"
  | .ok _ => pure ()

/-- The ends of a pipe that the launcher holds, each until it has been closed. -/
structure Pipe where
  read : Option Fd
  write : Option Fd
  deriving DecidableEq, Repr

namespace Pipe

/-- Closes the ends that are still open, the read end first. -/
def close (pipe : Pipe) : Launching Pipe := do
  for fd in pipe.read.toList ++ pipe.write.toList do
    Launching.close fd (.done ())
  return ⟨none, none⟩

/-- Makes a pipe for `use`, which hands back what it has left open with its value. That is closed
when `use` is through, whichever way it went. -/
def within {α : Type} (use : Fd → Fd → Pipe → Launching (Pipe × Except LaunchError α)) :
    Launching (Except LaunchError α) :=
  .pipe fun
    | .error e => .done (.error (.syscall e))
    | .ok (readEnd, writeEnd) => do
      let (pipe, value) ← use readEnd writeEnd ⟨some readEnd, some writeEnd⟩
      let _ ← pipe.close
      return value

end Pipe

/-- Starts two programs with their ends of a pipe and waits for both. No end is held while waiting:
the consumer sees the end of its input only when every write end is closed. -/
def runStages (output : Option Fd) (left right : Program) (readEnd writeEnd : Fd) (pipe : Pipe) :
    Launching (Pipe × Except LaunchError (List Child)) := do
  let unused := [readEnd, writeEnd]
  match ← spawn { program := left, stdout := some writeEnd, unused } with
  | .error e => return (pipe, .error e)
  | .ok producer =>
    let consumer ← spawn { program := right, stdin := some readEnd, stdout := output, unused }
    let pipe ← pipe.close
    match consumer with
    | .error e =>
      abandon producer
      return (pipe, .error e)
    | .ok consumer => return (pipe, ← reapBoth producer consumer)

/-- Starts two programs joined by a pipe and waits for both. -/
def runPiped (output : Option Fd) (left right : Argv) :
    Launching (Except LaunchError (List Child)) := do
  match Program.ofArgv left, Program.ofArgv right with
  | .error e, _ => return .error e
  | .ok _, .error e => return .error e
  | .ok left, .ok right => Pipe.within (runStages output left right)

/-- Launches a command. -/
def launch (output : Option Fd) : Command → Launching (Except LaunchError (List Child))
  | .single argv => runSingle output argv
  | .piped left right => runPiped output left right

end PipeShell.Launch
