import PipeShell.Host.Number.Floating
import PipeShell.Host.Script.Builtin.Operands
import PipeShell.Host.Script.Job

/-! # Builtins for jobs and signals -/

namespace PipeShell.Host.Script.Builtin

/-! ## Jobs -/

/-- The job for which a word stands. Since no job is shown with its command, a word that is no
number fits none, or all. -/
def job (name : Option String) : Sh Job := do
  let jobs := (← get).jobs
  let current (which : List Job) (missing : String) : Sh Job := match which with
    | j :: _ => return j
    | [] => Sh.fail missing
  match name with
  | none => current jobs "No current job"
  | some word =>
    let unknown : Sh Job := Sh.fail ("No such job: " ++ word)
    match word.toList with
    | ['%'] | ['%', '%'] | ['%', '+'] => current jobs "No current job"
    | ['%', '-'] => current (jobs.drop 1) "No previous job"
    | '%' :: c :: cs =>
      if (c :: cs).all Char.isDigit then
        match jobs.find? fun j => toString j.number == String.ofList (c :: cs) with
        | some j => return j
        | none => unknown
      else if c == '?' && cs.isEmpty then match jobs with
        | [j] => return j
        | [] => unknown
        | _ => Sh.fail (word ++ ": ambiguous")
      else unknown
    | _ => unknown

/-- Takes notice of the tasks that have ended. -/
def noticeEnded : Nat → Sh Unit
  | 0 => pure ()
  | fuel + 1 => do
    match ← Sh.act (Act.poll none) with
    | none => pure ()
    | some (pid, status) =>
      modify fun s => { s with jobs := s.jobs.map (·.noteEnd pid status) }
      noticeEnded fuel

/-- What is said of how a job stands. -/
def standing (j : Job) : String :=
  if !j.isDone then "Running"
  else match j.tasks.getLast? with
    | some (_, some (.exited 0)) | none | some (_, none) => "Done"
    | some (_, some (.exited code)) => s!"Done({code})"
    | some (_, some (.signaled signal)) => Signals.description signal.toNat

def showJob (kind : Option Char) (j : Job) : Sh Unit := do
  let pids := j.tasks.map (·.1)
  if kind == some 'p' then Sh.print (toString (pids.headD 0) ++ "\n")
  else
    let jobs := (← get).jobs
    let marker :=
      if (jobs.head?.map (·.number)) == some j.number then "+"
      else if ((jobs.drop 1).head?.map (·.number)) == some j.number then "-" else " "
    let head := s!"[{j.number}] {marker} "
    let withPids := kind == some 'l'
    let line := head ++ (if withPids then toString (pids.headD 0) ++ " " else "") ++ standing j
    let line := line ++ Number.Floating.repeated ' ' (max 1 (33 - line.length))
    let others := if withPids then
        (pids.drop 1).map fun pid =>
          let start := Number.Floating.repeated ' ' head.length ++ toString pid ++ " "
          " |\n" ++ start ++ Number.Floating.repeated ' ' (33 - (start.length - 1))
      else (pids.drop 1).map fun _ => " | "
    Sh.print (line ++ String.join others ++ "\n")
    if j.isDone then Job.remove j.number

def showJobs (operands : List String) : Sh Nat := do
  let (given, operands) ← options [('l', false), ('p', false)] operands
  let kind := given.getLast?.map (·.1)
  noticeEnded Job.manyTasks
  if operands.isEmpty then
    let jobs := (← get).jobs
    for j in jobs do showJob kind j
  else
    for word in operands do showJob kind (← job (some word))
  return 0

/-- No job can be moved, as none has been started under job control. -/
def moveJob (operands : List String) : Sh Nat := do
  let operands ← plainOperands operands
  let _ ← job operands.head?
  Sh.fail ("job " ++ operands.headD "(null)" ++ " not created under job control")

/-- The status for a wait that a signal has ended. -/
def interruptedStatus : Sh Nat := do
  let pending ← Sh.act (Act.look fun w => w.currentTask.pending)
  return 128 + pending.getLast?.getD 0

/-- Waits until no job is left that runs. -/
def waitForAll : Nat → Sh Nat
  | 0 => return 0
  | fuel + 1 => do
    if (← get).jobs.all (·.isDone) then
      modify fun s => { s with jobs := s.jobs.map fun j => { j with isAwaited := true } }
      return 0
    else if ← Job.waitNext none true then waitForAll fuel
    else interruptedStatus

/-- Waits for jobs, each given by the number of its last task or as a job. -/
def waitForEach (status : Nat) : List String → Sh Nat
  | [] => return status
  | word :: rest => do
    let found ← if word.startsWith "%" then do pure (some (← job (some word)))
      else do
        let pid ← Sh.number word
        pure ((← get).jobs.find? fun j => (j.tasks.getLast?.map (·.1)) == some pid)
    match found with
    | none => waitForEach status rest
    | some j =>
      if ← Job.waitUntilDone j.number true Job.manyTasks then
        match ← Job.find? j.number with
        | some j =>
          Job.modifyJob j.number fun j => { j with isAwaited := true }
          waitForEach (Job.code j) rest
        | none => waitForEach status rest
      else interruptedStatus

def wait (operands : List String) : Sh Nat := do
  match ← plainOperands operands with
  | [] => waitForAll Job.manyTasks
  | words => waitForEach 127 words

/-! ## Signals -/

def killUsage : String :=
  "Usage: kill [-s sigspec | -signum | -sigspec] [pid | job]... or\nkill -l [exitstatus]"

/-- Which signal is sent, whether signals are listed instead, and what follows. -/
def killOptions (operands : List String) : Sh (Option Nat × Bool × List String) := do
  match operands with
  | first :: rest =>
    if !first.startsWith "-" then return (none, false, operands)
    match Signals.number? (String.ofList (first.toList.drop 1)) 1 with
    | some signal => return (some signal, false, rest)
    | none =>
      let (given, rest) ← options [('l', false), ('s', true)] operands
      let mut signal : Option Nat := none
      for (c, argument) in given do
        if c == 's' then
          let name := argument.getD ""
          signal := Signals.number? name 1
          if signal.isNone then Sh.fail ("invalid signal number or name: " ++ name)
      return (signal, given.any (·.1 == 'l'), rest)
  | [] => Sh.fail killUsage

def listSignals (operands : List String) : Sh Nat := do
  match operands with
  | [] =>
    Sh.print "0\n"
    for name in Signals.names.drop 1 do Sh.print (name ++ "\n")
  | word :: _ =>
    let n ← Sh.number word
    let n := if 128 < n then n - 128 else n
    match if n == 0 then none else Signals.names[n]? with
    | some name => Sh.print (name ++ "\n")
    | none => Sh.fail ("invalid signal number or exit status: " ++ word)
  return 0

/-- Sends a signal to a task, to all of them, or to a group, which no task is in. -/
def sendTo (signal : Nat) (word : String) : Sh (Except Errno Unit) := do
  let missing : Except Errno Unit := .error ⟨3⟩
  if word.startsWith "%" then
    let _ ← job (some word)
    return missing
  else if word.startsWith "-" then
    let _ ← Sh.number (String.ofList (word.toList.drop 1))
    return missing
  else
    let pid ← Sh.number word
    if pid == 0 then
      Sh.act (Act.change fun w =>
        let running := w.tasks.filter (·.ended.isNone)
        (World.shellPid :: running.map (·.pid)).foldl (fun w pid => (w.send pid signal).2) w)
      return .ok ()
    else Sh.act (Act.send pid signal)

def kill (operands : List String) : Sh Nat := do
  let (signal, lists, operands) ← killOptions operands
  if lists then
    if signal.isSome then Sh.fail killUsage
    listSignals operands
  else
    if operands.isEmpty then Sh.fail killUsage
    let mut status := 0
    for word in operands do
      match ← sendTo (signal.getD 15) word with
      | .ok () => pure ()
      | .error e =>
        Sh.warn (e.message ++ "\n")
        status := 1
    return status

/-! ## Traps -/

/-- Brings what a signal does to the interpreter in line with its trap. -/
def installTrap (signal : Nat) : Sh Unit := do
  let s ← get
  if s.ignored.contains signal || signal == 9 || signal == 19 then pure ()
  else
    let d : Act.Disposition := match s.traps.lookup signal with
      | some action => if action.isEmpty then .ignored else .caught
      | none => if signal == 2 && s.catchesInterrupt then .caught else .byDefault
    Sh.act (Act.setDisposition signal d)

def setTrap (signal : Nat) (action : Option String) : Sh Unit := do
  modify fun s => { s with
    traps := s.traps.filter (·.1 != signal) ++ (action.map (signal, ·)).toList }
  if signal != 0 then installTrap signal

def trap (operands : List String) : Sh Nat := do
  match ← plainOperands operands with
  | [] =>
    for (signal, action) in (← get).traps.mergeSort fun a b => a.1 ≤ b.1 do
      Sh.print ("trap -- " ++ quoted action ++ " " ++ (Signals.names[signal]?).getD "" ++ "\n")
    return 0
  | first :: rest =>
    let isSignal := Signals.isNumber first && (first.toNat?.getD 65) < 65
    let (action, signals) :=
      if rest.isEmpty || isSignal then (none, first :: rest)
      else (if first == "-" then none else some first, rest)
    setAll action signals
where
  /-- Sets the trap of each signal until one is not known. -/
  setAll (action : Option String) : List String → Sh Nat
    | [] => return 0
    | name :: names => do
      match Signals.number? name 0 with
      | none =>
        Sh.put 2 ("trap: " ++ name ++ ": bad trap\n")
        return 1
      | some signal =>
        setTrap signal action
        setAll action names

def times : Sh Nat := do
  Sh.print "0m0.000000s 0m0.000000s\n0m0.000000s 0m0.000000s\n"
  return 0

end PipeShell.Host.Script.Builtin
