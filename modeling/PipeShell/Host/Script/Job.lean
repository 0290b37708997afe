import PipeShell.Host.Script.Scope
import PipeShell.Host.Signals

/-! # Jobs

Each pipeline and each command in the background is a job of its own tasks. The interpreter waits
for a job in the foreground and says so if a signal has ended it. -/

namespace PipeShell.Host.Script.Job

/-- The code by which a script knows how a task ended. -/
def codeOf : ExitStatus → Nat
  | .exited code => code.toNat
  | .signaled signal => 128 + signal.toNat

/-- The code for a task of whose end nothing was heard. -/
def unknownCode : Nat := 255

/-- The code of a job: that of its last task. -/
def code (job : Job) : Nat :=
  match job.tasks.getLast? with
  | some (_, some status) => codeOf status
  | some (_, none) => unknownCode
  | none => 0

/-- A new job without tasks. It may take the number of one that is done and has been waited for,
which then is forgotten. -/
def create : Sh Nat := do
  let s ← get
  let isTaken (number : Nat) : Bool :=
    s.jobs.any fun j => j.number == number && !(j.isDone && j.isAwaited)
  let number := ((List.range (s.jobs.length + 1)).map (· + 1)).find? (!isTaken ·) |>.getD 1
  set { s with jobs := { number, tasks := [] } :: s.jobs.filter (·.number != number) }
  return number

def find? (number : Nat) : Sh (Option Job) := do
  return (← get).jobs.find? (·.number == number)

def modifyJob (number : Nat) (f : Job → Job) : Sh Unit :=
  modify fun s => { s with jobs := s.jobs.map fun j => if j.number == number then f j else j }

def remove (number : Nat) : Sh Unit :=
  modify fun s => { s with jobs := s.jobs.filter (·.number != number) }

/-- What is said of a task that a signal has ended, if anything is. -/
def remark? : ExitStatus → Option String
  | .exited _ => none
  | .signaled signal =>
    if signal = 2 || signal = 13 then none else some (Signals.description signal.toNat)

/-- Waits for the next task that ends. A remark is made if it belongs to the awaited job. False if
a caught signal came first or nothing is left to wait for. -/
def waitNext (awaited : Option Nat) (interruptible : Bool) : Sh Bool := do
  match ← Sh.act (Act.wait none interruptible) with
  | .interrupted | .nobody => return false
  | .child pid status =>
    let owner := (← get).jobs.find? fun j => j.tasks.any (·.1 == pid)
    match owner with
    | none => return true
    | some job =>
      modifyJob job.number (·.noteEnd pid status)
      if awaited == some job.number then
        match remark? status with
        | some text => Sh.put 2 (text ++ "\n")
        | none => pure ()
      return true

/-- Waits until a job is done. The number bounds how many tasks there are. -/
def waitUntilDone (number : Nat) (interruptible : Bool) : Nat → Sh Bool
  | 0 => return true
  | fuel + 1 => do
    match ← find? number with
    | none => return true
    | some job =>
      if job.isDone then return true
      if ← waitNext (some number) interruptible then waitUntilDone number interruptible fuel
      else return false

/-- More tasks than there are. -/
def manyTasks : Nat := 1000000

/-- Waits for a job in the foreground and gives its code. -/
def finish (number : Nat) : Sh Nat := do
  let _ ← waitUntilDone number false manyTasks
  match ← find? number with
  | none => return 0
  | some job =>
    remove number
    return code job

/-! ## Starting tasks -/

inductive Ground where
  | foreground | background | hidden
  deriving DecidableEq

/-- What a task does with the signals and jobs of the interpreter that it was forked from. -/
def becomeSubshell (ground : Ground) (isFirst : Bool) : Sh Unit := do
  let s ← get
  let kept := s.traps.filter (·.2.isEmpty)
  for (signal, action) in s.traps do
    if !action.isEmpty && signal != 0 then Sh.act (Act.setDisposition signal .byDefault)
  set { s with
    jobs := [], traps := kept, isSubshell := true, output := "", catchesInterrupt := false
    skip := .none, loops := 0, redirected := [] }
  if s.catchesInterrupt && (s.traps.lookup 2).isNone then
    Sh.act (Act.setDisposition 2 .byDefault)
  if ground = .background then
    Sh.act (Act.setDisposition 2 .ignored)
    Sh.act (Act.setDisposition 3 .ignored)
    if isFirst then
      Sh.act do
        Act.close 0
        let _ ← Act.openFile "/dev/null" { read := true }

/-- Starts a task that runs `body` in a copy of the scope and adds it to a job. -/
def start (job : Option Nat) (ground : Ground) (body : Sh Nat) : Sh Nat := do
  let scope ← get
  let isFirst := match job with
    | none => true
    | some n => match scope.jobs.find? (·.number == n) with
      | some j => j.tasks.isEmpty
      | none => true
  let child : Act Nat := do
    let program : Sh Nat := do
      becomeSubshell ground isFirst
      body
    let (result, scope) ← program.run.run scope
    match result with
    | .ok code => return code
    | .error _ => return scope.status
  let pid ← Sh.act (Act.fork child)
  match job with
  | some n => modifyJob n fun j => { j with tasks := j.tasks ++ [(pid, none)] }
  | none => pure ()
  if ground = .background then modify fun s => { s with lastBackground := some pid }
  return pid

end PipeShell.Host.Script.Job
