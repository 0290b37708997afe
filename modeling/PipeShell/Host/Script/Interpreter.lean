import PipeShell.Host.Script.Evaluate

/-! # The command interpreter

The interpreter as a program: it takes its options, its variables from the environment, and then
runs a script that is given as text, in a file or as its input. -/

namespace PipeShell.Host.Script.Interpreter

/-- How much of a script is read at a time. -/
def blockSize : Nat := 8192

/-- The variables that an interpreter has at its start. -/
def bindings (environment : List String) (parent : Nat) : List (String × Variable) :=
  let set (vs : List (String × Variable)) (name value : String) (isExported : Bool) :=
    if (vs.lookup name).isSome then
      vs.map fun (n, v) =>
        if n == name then (n, { v with value := some value, isExported := v.isExported || isExported })
        else (n, v)
    else vs ++ [(name, { value := some value, isExported })]
  let own := [("PATH", Lookup.standardPath), ("PS1", "# "), ("PS2", "> "), ("PS4", "+ ")]
  let vs := own.foldl (fun vs (name, value) => set vs name value false) []
  let vs := environment.foldl
    (fun vs entry => match Builtin.splitAssignment entry with
      | (name, some value) => if isName name then set vs name value true else vs
      | _ => vs)
    vs
  [("IFS", " \t\n"), ("OPTIND", "1"), ("PPID", toString parent)].foldl
    (fun vs (name, value) => set vs name value false) vs

/-- Takes over the name of the directory from the environment if it is right. -/
def findDirectory : Sh Unit := do
  let name := ((← get).value? "PWD").getD ""
  let isRight ← Sh.act (Act.files fun fs cwd =>
    name.startsWith "/" && match fs.resolve cwd name true with
      | .ok i => i == cwd
      | .error _ => false)
  Builtin.setDirectory (if isRight then some name else none) false

section

variable (run : Manner → Option Command → Sh Nat)

/-- Shows the text of a script as it is read, if that is asked for. -/
def showInput (before after : Source) : Sh Unit := do
  if (← get).option "verbose" then
    let taken := before.rest.take (before.rest.length - after.rest.length)
    Sh.put 2 (String.ofList taken)

/-- Runs what can be read from a descriptor. A line of commands is read anew when there is more of
it. -/
def runInput (fd : Nat) (status : Nat) (source : Source) : Nat → Sh Nat
  | 0 => return status
  | fuel + 1 => do
    let s ← get
    let source := { source with aliases := s.aliases, documents := s.documents }
    match readLine.run source with
    | .error .wantsMore =>
      match ← Sh.act (Act.read fd blockSize) with
      | .ok bytes =>
        let text := (ByteText.ofBytes bytes).toList.filter (· != '\x00')
        runInput fd status
          { source with rest := source.rest ++ text, complete := bytes.isEmpty } fuel
      | .error _ => runInput fd status { source with complete := true } fuel
    | .error (.mistake line text) =>
      modify fun s => { s with mistakeLine := line }
      showInput source { source with rest := [] }
      Sh.fail text
    | .ok (.nothing, after) =>
      showInput source after
      return status
    | .ok (.command command, after) =>
      modify fun s => { s with documents := after.documents }
      showInput source after
      let code ← run {} command
      let status := if command.isSome then code else status
      let s ← get
      if s.skip != .none then
        set { s with skip := match s.skip with
          | .returns _ => .none
          | skip => skip }
        return status
      runInput fd status after fuel

/-- Runs the script that the options and operands say. -/
def runScript (operands : List String) : Sh Nat := do
  let o ← Builtin.setOptions true false operands operands.length
  let _ ← Sh.flush
  let input (fd : Nat) : Sh Nat := runInput run fd 0 { rest := [], complete := false } manyRounds
  let catchInterrupt : Sh Unit := do
    if !(← get).ignored.contains 2 then
      modify fun s => { s with catchesInterrupt := true }
      Sh.act (Act.setDisposition 2 .caught)
  let name (words : List String) : Sh Unit := match words with
    | [] => pure ()
    | name :: positional => modify fun s => { s with name, positional }
  match o.hasCommand, o.rest with
  | true, [] => Sh.fail "-c requires an argument"
  | true, text :: rest =>
    name rest
    if !(← get).option "stdin" then catchInterrupt
    let readsInput := (← get).option "stdin"
    let status ← runText run {} text
    if readsInput && (← get).skip == .none then input 0 else return status
  | false, rest =>
    match rest with
    | path :: positional =>
      if (← get).option "stdin" then
        modify fun s => { s with positional := rest }
        input 0
      else
        let fd ← Redirect.moveAway (← Redirect.openFile .read path)
        name (path :: positional)
        catchInterrupt
        input fd
    | [] =>
      modify (·.setOption "stdin" true)
      input 0

end

/-- Runs an interpreter with these words and environment. It always hears of the ends of its own
children. -/
def main (exec : Act.Exec) (argv environment : List String) : Act Nat := do
  Act.setDisposition World.childSignal .byDefault
  let pid ← Act.pid
  let task ← Act.look (·.currentTask)
  let run := evaluate exec maxDepth
  let scope : Scope := {
    name := argv.headD "sh", pid, parent := task.parent, ignored := task.ignored
    bindings := bindings environment task.parent }
  let program : Sh Nat := whole run do
    findDirectory
    runScript run (argv.drop 1)
  let (result, scope) ← program.run.run scope
  match result with
  | .ok code => return code
  | .error _ => return scope.status

end PipeShell.Host.Script.Interpreter
