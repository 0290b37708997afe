import PipeShell.Host.Act
import PipeShell.Host.ByteText
import PipeShell.Host.Script.Source

/-! # The state of a command interpreter

A script runs in a scope: its parameters and variables, the functions it has defined, its options,
its jobs and the status of its last command. Descriptors and the directory belong to its task. -/

namespace PipeShell.Host.Script

structure Variable where
  value : Option String := none
  isExported : Bool := false
  isReadOnly : Bool := false
  deriving Inhabited

/-- What is left of the commands that are to be run. -/
inductive Skip where
  | none
  | breaks (levels : Nat)
  | continues (levels : Nat)
  /-- The function or the script that is run is left, with a status of its own or without. -/
  | returns (withStatus : Bool)
  deriving DecidableEq, Repr

/-- A pipeline or another command that was started, with what is known of its tasks. -/
structure Job where
  number : Nat
  tasks : List (Nat × Option ExitStatus)
  /-- Whether a script has waited for it, so that it need not be kept. -/
  isAwaited : Bool := false

namespace Job

def isDone (job : Job) : Bool := job.tasks.all (·.2.isSome)

/-- Takes notice that a task has ended. -/
def noteEnd (pid : Nat) (status : ExitStatus) (job : Job) : Job :=
  { job with tasks := job.tasks.map fun (p, s) => if p == pid then (p, some status) else (p, s) }

end Job

/-- What a descriptor was before it was redirected. -/
inductive Saved where
  | closed
  | copy (fd : Nat)

/-- A variable as it was before it became local, or the options. -/
inductive Local where
  | variable (name : String) (before : Option Variable)
  | options (before : List String)

structure Scope where
  /-- The name by which the interpreter speaks of itself. -/
  name : String
  positional : List String := []
  bindings : List (String × Variable) := []
  functions : List (String × Command) := []
  aliases : List (String × String) := []
  /-- The names of the options that are set. -/
  options : List String := []
  documents : Array Document := #[]
  status : Nat := 0
  /-- The status of the last command that was substituted in the current one. -/
  substituted : Nat := 0
  /-- The line that mistakes are reported for. -/
  mistakeLine : Nat := 0
  /-- The builtin that is run. -/
  command : Option String := none
  /-- What a builtin has written and not yet put out. -/
  output : String := ""
  loops : Nat := 0
  skip : Skip := .none
  redirected : List (List (Nat × Saved)) := []
  locals : List (List Local) := []
  jobs : List Job := []
  lastBackground : Option Nat := none
  pid : Nat
  parent : Nat
  /-- Signals with what is done on them; 0 is the end. An empty action ignores the signal. -/
  traps : List (Nat × String) := []
  /-- The signals that were ignored when the interpreter started, which stay so. -/
  ignored : List Nat := []
  directory : String := ""
  /-- Which character of which word `getopts` looks at next. -/
  optionAt : Nat := 0
  optionIndex : Nat := 1
  /-- The status that the interpreter has when the trap that is run is over. -/
  held : Option Nat := none
  /-- Where programs were found: which directory of the path each is in. -/
  found : List (String × Nat) := []
  /-- Whether an interrupt without a trap waits until the command in the foreground is over. -/
  catchesInterrupt : Bool := false
  /-- Whether this is a task of the interpreter and not the interpreter itself. -/
  isSubshell : Bool := false
  /-- Whether a command is being shown. -/
  isTracing : Bool := false

/-- Why the interpreter does not go on with the current command. -/
inductive Jump where
  /-- A mistake, which has been reported. -/
  | mistake
  /-- The interpreter ends. -/
  | leave
  deriving DecidableEq, Repr

/-- A computation of a command interpreter. -/
abbrev Sh := ExceptT Jump (StateT Scope Act)

namespace Scope

def option (s : Scope) (name : String) : Bool := s.options.contains name

/-! ## Variables -/

def lookup? (s : Scope) (name : String) : Option Variable := s.bindings.lookup name

/-- The value of a variable. -/
def value? (s : Scope) (name : String) : Option String :=
  (s.lookup? name).bind (·.value)

/-- Some variables mean something to the interpreter. -/
def noteChange (s : Scope) (name : String) (value : Option String) : Scope :=
  match name with
  | "OPTIND" => { s with optionIndex := (value.bind String.toNat?).getD 1, optionAt := 0 }
  | "PATH" => { s with found := [] }
  | _ => s

/-- Puts a variable in the place of one with its name, or at the end. -/
def setVariable (s : Scope) (name : String) (v : Variable) : Scope :=
  let bindings :=
    if s.bindings.any (·.1 == name) then
      s.bindings.map fun (n, w) => if n == name then (n, v) else (n, w)
    else s.bindings ++ [(name, v)]
  { s with bindings }.noteChange name v.value

def removeVariable (s : Scope) (name : String) : Scope :=
  { s with bindings := s.bindings.filter (·.1 != name) }.noteChange name none

/-- Where a variable stands in the environment of the programs that are started. -/
def bucket (name : String) : Nat :=
  match name.toList with
  | [] => 0
  | first :: rest => (rest.foldl (fun n c => n + c.toNat) (first.toNat * 16 + first.toNat)) % 39

/-- The environment of the programs that are started. -/
def environment (s : Scope) : List (String × String) :=
  let exported := s.bindings.filterMap fun (name, v) =>
    if v.isExported then v.value.map (name, ·) else none
  exported.mergeSort fun a b => bucket a.1 ≤ bucket b.1

/-- The characters at which fields are split. -/
def separators (s : Scope) : List Char := ((s.value? "IFS").getD " \t\n").toList

/-! ## Options -/

/-- The options by name, in the order in which they are shown, with their letters. -/
def optionNames : List (String × Option Char) := [
  ("errexit", some 'e'), ("noglob", some 'f'), ("ignoreeof", some 'I'),
  ("interactive", some 'i'), ("monitor", some 'm'), ("noexec", some 'n'), ("stdin", some 's'),
  ("xtrace", some 'x'), ("verbose", some 'v'), ("vi", some 'V'), ("emacs", some 'E'),
  ("noclobber", some 'C'), ("allexport", some 'a'), ("notify", some 'b'), ("nounset", some 'u'),
  ("privileged", some 'p'), ("nolog", none), ("debug", none)]

/-- The letters of the options that are set. -/
def optionLetters (s : Scope) : String :=
  String.ofList (optionNames.reverse.filterMap fun (name, letter) =>
    if s.option name then letter else none)

def setOption (s : Scope) (name : String) (on : Bool) : Scope :=
  let others := s.options.filter (· != name)
  { s with options := if on then name :: others else others }

def numberText (n : Int) : String := toString n

end Scope

/-! ## Doing -/

namespace Sh

variable {α : Type}

def act (a : Act α) : Sh α := ExceptT.lift (StateT.lift a)

/-- What becomes of a computation, as a value. -/
def attempt (a : Sh α) : Sh (Except Jump α) := ExceptT.lift a.run

def put (fd : Nat) (text : String) : Sh Unit := do
  let _ ← act (Act.write fd (ByteText.toBytes text))

/-- Adds to what the builtin writes. -/
def print (text : String) : Sh Unit := modify fun s => { s with output := s.output ++ text }

/-- A message of the interpreter. -/
def warn (text : String) : Sh Unit := do
  let s ← get
  let command := match s.command with
    | some name => name ++ ": "
    | none => ""
  put 2 (s.name ++ ": " ++ toString s.mistakeLine ++ ": " ++ command ++ text ++ "\n")

def setStatus (code : Nat) : Sh Unit := modify fun s => { s with status := code }

/-- Puts out what builtins have written. False if that fails. -/
def flush : Sh Bool := do
  let s ← get
  if s.output.isEmpty then return true
  set { s with output := "" }
  match ← act (Act.write 1 (ByteText.toBytes s.output)) with
  | .ok () => return true
  | .error _ => return false

/-- A mistake that ends the command, and the script if nobody prevents it. -/
def fail (text : String) : Sh α := do
  warn text
  let _ ← flush
  setStatus 2
  throw .mistake

/-- Makes a pipe. -/
def makePipe : Sh (Nat × Nat) := do
  match ← act (Act.call World.makePipe) with
  | .ok ends => return ends
  | .error _ => fail "Pipe call failed"

/-- Sets a variable's value. -/
def assign (name value : String) : Sh Unit := do
  let s ← get
  let v := (s.lookup? name).getD {}
  if v.isReadOnly then fail (name ++ ": is read only")
  set (s.setVariable name { v with value := some value, isExported := v.isExported || s.option "allexport" })

/-- Adds marks to a variable, which may not exist yet. -/
def mark (name : String) (exported readOnly : Bool) : Sh Unit :=
  modify fun s =>
    let v := (s.lookup? name).getD {}
    s.setVariable name { v with
      isExported := v.isExported || exported, isReadOnly := v.isReadOnly || readOnly }

/-- Makes a variable local, so that its value now comes back when the function is left. -/
def makeLocal (name : String) : Sh Unit :=
  modify fun s => match s.locals with
    | [] => s
    | saved :: outer =>
      let known := saved.any fun
        | .variable n _ => n == name
        | .options _ => false
      if known then s
      else { s with locals := (.variable name (s.lookup? name) :: saved) :: outer }

def pushLocals : Sh Unit := modify fun s => { s with locals := [] :: s.locals }

/-- Gives local variables their former values back. -/
def popLocals : Sh Unit := modify fun s =>
  match s.locals with
  | [] => s
  | saved :: outer => saved.foldl
      (fun s l => match l with
        | .variable name (some v) => s.setVariable name v
        | .variable name none => s.removeVariable name
        | .options before => { s with options := before })
      { s with locals := outer }

/-- Reads the number of a builtin's operand. -/
def number (text : String) : Sh Nat := do
  let digits := text.toList
  if digits.isEmpty || !digits.all Char.isDigit then fail ("Illegal number: " ++ text)
  let n := digits.foldl (fun n d => 10 * n + (d.toNat - '0'.toNat)) 0
  if 2147483647 < n then fail ("Illegal number: " ++ text)
  return n

end Sh
end PipeShell.Host.Script
