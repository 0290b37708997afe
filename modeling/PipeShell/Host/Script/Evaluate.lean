import PipeShell.Host.Script.Builtin.Commands
import PipeShell.Host.Script.Builtin.Jobs
import PipeShell.Host.Script.Builtin.Places
import PipeShell.Host.Script.Builtin.Print
import PipeShell.Host.Script.Builtin.Read
import PipeShell.Host.Script.Builtin.Test
import PipeShell.Host.Script.Reader.Command
import PipeShell.Host.Script.Redirect

/-! # Running commands

Each kind of command is run in terms of the commands in it, which are run by a given evaluator;
`evaluate` at the end ties the knot. -/

namespace PipeShell.Host.Script

/-- How a command is run. -/
structure Manner where
  /-- The task ends with the command. -/
  exits : Bool := false
  /-- Its status is asked for, so that a failure is no reason to end the script. -/
  tested : Bool := false

def leave {α : Type} : Sh α := throw .leave

/-- Notes the line of a command. -/
def setLine (line : Nat) : Sh Unit := modify fun s => { s with mistakeLine := line }

def withStatus (code : Nat) : Sh Nat := do
  Sh.setStatus code
  return code

def hasTraps (s : Scope) : Bool := s.traps.any fun (_, action) => !action.isEmpty

/-- Loops and functions are left early if commands are to be skipped. -/
def isSkipping : Sh Bool := do return (← get).skip != .none

/-- What a loop does after a part of it: whether it is left, given what is skipped. -/
def skipInLoop : Sh Skip := do
  let s ← get
  match s.skip with
  | .breaks (n + 2) =>
    let left : Skip := .breaks (n + 1)
    set { s with skip := left }
    return left
  | .continues (n + 2) =>
    set { s with skip := .continues (n + 1) }
    return .breaks (n + 1)
  | .breaks _ =>
    set { s with skip := .none }
    return .breaks 0
  | .continues _ =>
    set { s with skip := .none }
    return .continues 0
  | skip => return skip

/-- More rounds than any loop makes. -/
def manyRounds : Nat := 1000000000000

section

-- How programs are started, and how commands inside of a command are run.
variable (exec : Act.Exec) (run : Manner → Option Command → Sh Nat)

/-! ## Texts -/

/-- Reads and runs the lines of a text. The number is more than it has lines. -/
def runLines (m : Manner) (status : Nat) (source : Source) : Nat → Sh Nat
  | 0 => return status
  | fuel + 1 => do
    let s ← get
    let source := { source with aliases := s.aliases, documents := s.documents }
    match readLine.run source with
    | .error (.mistake line text) =>
      modify fun s => { s with mistakeLine := line }
      Sh.fail text
    | .error .wantsMore => return status
    | .ok (.nothing, _) => return status
    | .ok (.command command, source) =>
      modify fun s => { s with documents := source.documents }
      let code ← run m command
      let status := if command.isSome then code else status
      if ← isSkipping then return status
      runLines m status source fuel

/-- Runs a text. -/
def runText (m : Manner) (text : String) : Sh Nat :=
  runLines run m 0 { rest := text.toList } (text.length + 2)

/-! ## Signals -/

/-- Runs the traps of these signals; those that are left when something is skipped wait. -/
def runTraps (status : Nat) : List Nat → Sh Unit
  | [] => pure ()
  | signal :: rest => do
    let s ← get
    if s.skip != .none then
      Sh.act (Act.change fun w => w.modifyCurrent fun t =>
        { t with pending := t.pending ++ signal :: rest })
    else
      match s.traps.lookup signal with
      | none => pure ()
      | some action =>
        let _ ← runText run {} action
        if (← get).skip != .returns true then Sh.setStatus status
      runTraps status rest

/-- Runs the traps of the signals that have come. An interrupt without a trap ends the task. -/
def checkSignals : Sh Unit := do
  let pending ← Sh.act Act.takePending
  if !pending.isEmpty then
    let s ← get
    if pending.contains 2 && (s.traps.lookup 2).isNone then
      Sh.act do
        Act.setDisposition 2 .byDefault
        let _ ← Act.send (← Act.pid) 2
    let status := s.held.getD s.status
    set { s with held := some status }
    runTraps run status (pending.mergeSort.eraseDups)
    modify fun t => { t with held := s.held }

/-- What a task does at its end: it runs the trap for that. Gives the code with which it ends. -/
def finish : Sh Nat := do
  let s ← get
  let held := s.status
  match s.traps.lookup 0 with
  | none => pure ()
  | some action =>
    set { s with held := some held, skip := .none, traps := s.traps.filter (·.1 != 0) }
    match ← Sh.attempt (runText run {} action) with
    | .ok _ => Sh.setStatus held
    | .error _ => pure ()
  let _ ← Sh.flush
  return (← get).status

/-- Runs commands as all that a task does. -/
def whole (commands : Sh Nat) : Sh Nat := do
  let _ ← Sh.attempt commands
  finish run

/-! ## Substitution -/

/-- What a command writes. -/
def outputOf (command : Option Command) : Sh String := do
  if command.isNone then return ""
  let (readEnd, writeEnd) ← Sh.makePipe
  let number ← Job.create
  let _ ← Job.start (some number) .hidden do
    Sh.act do
      Act.close readEnd
      if writeEnd != 1 then
        let _ ← Act.call (World.duplicate writeEnd 1)
        Act.close writeEnd
    whole run (run { exits := true } command)
  let bytes ← Sh.act do
    Act.close writeEnd
    let result ← Act.readAll readEnd
    Act.close readEnd
    return result
  let code ← Job.finish number
  modify fun s => { s with substituted := code }
  return match bytes with
    | .ok bytes => ByteText.ofBytes bytes
    | .error _ => ""

def expandWords (words : List Word) : Sh (List String) := do
  let mut texts : Array String := #[]
  for word in words do
    texts := texts ++ (← Expansion.fields (outputOf run) word).toArray
  return texts.toList

def prepareAll (redirections : List Redirection) : Sh (List Redirect.Prepared) :=
  redirections.mapM (Redirect.prepare (outputOf run))

/-! ## Programs -/

/-- Whether a byte stands in no text. -/
def isControl (byte : UInt8) : Bool :=
  byte ≤ 8 || (16 ≤ byte && byte ≤ 26) || (28 ≤ byte && byte ≤ 31) || byte == 127

/-- Whether the first line of a file, as far as it is looked at, is that of a text. -/
def looksLikeText (content : ByteArray) : Bool :=
  ((content.extract 0 128).toList.takeWhile (· != 10)).all (!isControl ·)

/-- Turns the task into the program at a path. A text in no known format is a script. -/
def becomeFile (path : String) (argv environment : List String) : Act Errno := do
  let reason ← exec path argv environment
  if reason != .execFormat then return reason
  let isText ← Act.files fun fs cwd => match fs.contents cwd path with
    | .ok content => looksLikeText content
    | .error _ => false
  if isText then exec shellPath (shellPath :: path :: argv.drop 1) environment else return reason
where
  shellPath : String := "/bin/sh"

/-- Turns the task into a program that is looked for in the directories of a path from one on. -/
def become (argv : List String) (path : String) (first : Nat) : Sh Nat := do
  let name := argv.headD ""
  let environment := (← get).environment.map fun (name, value) => name ++ "=" ++ value
  let rec attempt (e : Errno) : List String → Act Errno
    | [] => pure e
    | candidate :: rest => do
      let reason ← becomeFile exec candidate argv environment
      attempt (if reason = .notFound || reason = .notDirectory then e else reason) rest
  let e ← Sh.act (if Lookup.isPath name then becomeFile exec name argv environment
    else attempt .notFound ((Lookup.candidates path name).drop first))
  Sh.warn (name ++ ": " ++ Lookup.reason e)
  let code := if [Errno.notFound, .notDirectory, .linkLoop, .nameTooLong].contains e then 127 else 126
  Sh.setStatus code
  leave

/-- Runs a program, in a task of its own if the interpreter is needed afterwards. -/
def runProgram (m : Manner) (argv : List String) (path : String) (first : Nat) : Sh Nat := do
  if m.exits && !hasTraps (← get) then become exec argv path first
  else
    let scope ← get
    let number ← Job.create
    let child : Act Nat := do
      let (_, scope) ← (become exec argv path first).run.run scope
      return scope.status
    let pid ← Sh.act (Act.fork child)
    Job.modifyJob number fun j => { j with tasks := [(pid, none)] }
    Job.finish number

/-! ## Builtins that run commands -/

/-- Ends the task with a status, by default that of the last command. -/
def exitTask (operands : List String) : Sh Nat := do
  match operands with
  | [] => pure ()
  | text :: _ =>
    let n ← Sh.number text
    modify fun s => { s with held := some n }
  let s ← get
  match s.held with
  | some code => set { s with status := code, held := none }
  | none => pure ()
  leave

def returnFrom (operands : List String) : Sh Nat := do
  match operands with
  | [] =>
    modify fun s => { s with skip := .returns false }
    return (← get).status
  | text :: _ =>
    let n ← Sh.number text
    modify fun s => { s with skip := .returns true }
    return n

/-- Leaves loops, or their current rounds. -/
def breakLoops (goesOn : Bool) (operands : List String) : Sh Nat := do
  let n ← match operands with
    | [] => pure 1
    | text :: _ => Sh.number text
  if n == 0 then Sh.fail ("Illegal number: " ++ operands.headD "")
  modify fun s =>
    let n := min n s.loops
    if n == 0 then s else { s with skip := if goesOn then .continues n else .breaks n }
  return 0

/-- Runs a script in the current scope. -/
def source (operands : List String) : Sh Nat := do
  match ← Builtin.plainOperands operands with
  | [] => return 0
  | name :: _ =>
    let path ← if Lookup.isPath name then pure name
      else
        let candidates := Lookup.candidates (Lookup.path (← get)) name
        let found ← Sh.act (Act.files fun fs cwd => candidates.find? fun candidate =>
          match fs.resolve cwd candidate true with
          | .ok i => match fs.body? i with
            | some (.file _) | some (.program _) => true
            | _ => false
          | .error _ => false)
        match found with
        | some path => pure path
        | none => Sh.fail (name ++ ": not found")
    let fd ← Redirect.moveAway (← Redirect.openFile .read path)
    let bytes ← Sh.act do
      let bytes ← Act.readAll fd
      Act.close fd
      return bytes
    let text := match bytes with
      | .ok bytes => ByteText.ofBytes bytes
      | .error _ => ""
    modify fun s => { s with command := some path }
    let status ← runText run {} text
    modify fun s => match s.skip with
      | .returns _ => { s with skip := .none }
      | _ => s
    return status

def runBuiltin (m : Manner) (name : String) (operands : List String) : Sh Nat := do
  match name with
  | ":" | "true" => return 0
  | "false" => return 1
  | "." => source run operands
  | "eval" =>
    if operands.isEmpty then return 0
    runText run { tested := m.tested } (" ".intercalate operands)
  | "exec" => do
    match ← Builtin.plainOperands operands with
    | [] => return 0
    | argv => become exec argv (Lookup.path (← get)) 0
  | "exit" => exitTask operands
  | "return" => returnFrom operands
  | "break" => breakLoops false operands
  | "continue" => breakLoops true operands
  | "set" => Builtin.setState operands
  | "shift" => Builtin.shiftParameters operands
  | "times" => Builtin.times
  | "trap" => Builtin.trap operands
  | "unset" => Builtin.unsetNames operands
  | "export" | "readonly" => Builtin.markVariables name operands
  | "local" => Builtin.declareLocals operands
  | "getopts" => Builtin.getopts operands
  | "read" => Builtin.readLine operands
  | "echo" => Builtin.echo operands
  | "printf" => Builtin.printf operands
  | "test" => Builtin.test operands
  | "[" => Builtin.bracket operands
  | "cd" | "chdir" => Builtin.cd operands
  | "pwd" => Builtin.pwd operands
  | "umask" => Builtin.umask operands
  | "ulimit" => Builtin.ulimit operands
  | "alias" => Builtin.setAliases operands
  | "unalias" => Builtin.removeAliases operands
  | "hash" => Builtin.showFound operands
  | "type" => Builtin.describeAll operands
  | "command" => Builtin.describeOne operands
  | "jobs" => Builtin.showJobs operands
  | "bg" | "fg" => Builtin.moveJob operands
  | "wait" => Builtin.wait operands
  | "kill" => Builtin.kill operands
  | _ => return 0

/-- Runs a builtin, puts out what it has written and sets the status. -/
def callBuiltin (m : Manner) (name : String) (operands : List String) : Sh Unit := do
  let outer := (← get).command
  modify fun s => { s with command := some name }
  let result ← Sh.attempt do
    let status ← runBuiltin exec run m name operands
    if ← Sh.flush then Sh.setStatus status
    else
      Sh.warn (name ++ ": I/O error")
      Sh.setStatus (status ||| 1)
  modify fun s => { s with command := outer }
  match result with
  | .ok () => pure ()
  | .error jump => throw jump

/-! ## Simple commands -/

/-- The words of a simple command as far as they have been expanded, and what its first ones
mean. -/
structure Leading where
  /-- Words that only say how the command is to be found. -/
  dropped : List String := []
  texts : List String
  rest : List Word
  /-- Whether the first builtin is a special one; nothing if the command is no builtin. -/
  isSpecial : Option Bool := none
  /-- The builtin that is run. -/
  builtin : Option Builtin := none
  /-- Functions are passed over. -/
  skipsFunctions : Bool := false
  path : Option String := none

/-- Expands words until there is a field. -/
def expandNext : List Word → Sh (List String × List Word)
  | [] => return ([], [])
  | word :: rest => do
    match ← Expansion.fields (outputOf run) word with
    | [] => expandNext rest
    | texts => return (texts, rest)

/-- What is left behind `command`, which is run without functions; nothing if its options ask for
something else. The second value has all words that were expanded for that. -/
def commandOperands (l : Leading) : Nat → Sh (Option Leading × Leading)
  | 0 => return (none, l)
  | fuel + 1 => do
    let filled (l : Leading) : Sh Leading := do
      if !l.texts.isEmpty then return l
      let (texts, rest) ← expandNext run l.rest
      return { l with texts, rest }
    let l ← filled l
    let shift : Leading := { l with dropped := l.dropped ++ l.texts.take 1, texts := l.texts.drop 1 }
    match l.texts.head?.map String.toList with
    | none => return (none, l)
    | some ['-', '-'] =>
      let l ← filled shift
      return (if l.texts.isEmpty then none else some l, l)
    | some ('-' :: c :: cs) =>
      if (c :: cs).all (· == 'p') then
        commandOperands { shift with path := some Lookup.standardPath } fuel
      else return (none, l)
    | some _ => return (some l, l)

/-- Finds out what the first words mean. -/
def lead (l : Leading) : Nat → Sh Leading
  | 0 => return l
  | fuel + 1 => do
    let s ← get
    let name := l.texts.headD ""
    let isFunction := !l.skipsFunctions && (s.functions.lookup name).isSome
    match if isFunction then none else Builtin.ofName? name with
    | none => return { l with builtin := none }
    | some b =>
      let l := { l with builtin := some b, isSpecial := l.isSpecial.or (some b.isSpecial) }
      if name != "command" then return l
      let operands : Leading := { l with dropped := l.dropped ++ [name], texts := l.texts.drop 1 }
      match ← commandOperands run operands (l.rest.length + l.texts.length + 1) with
      | (none, seen) => return { seen with dropped := [], texts := seen.dropped ++ seen.texts }
      | (some l, _) => lead { l with skipsFunctions := true } fuel

/-- The remaining words of a command. Where a builtin assigns, words that look like assignments
are not split. -/
def expandRest (assigns : Bool) (words : List Word) : Sh (List String) := do
  let mut texts : Array String := #[]
  for word in words do
    if assigns && Word.isAssignment word then
      texts := texts.push (← Expansion.text (outputOf run) { assigns := true } word)
    else texts := texts ++ (← Expansion.fields (outputOf run) word).toArray
  return texts.toList

/-- The text before a command that is shown. -/
def tracePrompt : Sh String := do
  let prompt := ((← get).value? "PS4").getD ""
  if !prompt.toList.any fun c => c == '$' || c == '\x60' || c == '\\' then return prompt
  let source : Source := { rest := ("\"" ++ prompt ++ "\"").toList, aliases := [] }
  match readLine.run source with
  | .ok (.command (some (.simple _ [] [word] [])), _) => Expansion.text (outputOf run) {} word
  | _ => return prompt

/-- Shows a command before it is run, where errors went before its own redirections. -/
def trace (redirects : Bool) (assignments texts : List String) : Sh Unit := do
  let s ← get
  if s.option "xtrace" && !s.isTracing then
    set { s with isTracing := true }
    let prompt ← tracePrompt run
    modify fun s => { s with isTracing := false }
    let fd := match if redirects then s.redirected else [] with
      | saved :: _ => match saved.lookup 2 with
        | some (.copy fd) => fd
        | _ => 2
      | [] => 2
    Sh.put fd (prompt ++ " ".intercalate (assignments ++ texts) ++ "\n")

/-- Calls a function. -/
def callFunction (m : Manner) (body : Command) (operands : List String) : Sh Unit := do
  let s ← get
  set { s with
    positional := operands, optionIndex := 1, optionAt := 0, loops := 0 }
  let result ← Sh.attempt (run { tested := m.tested } (some body))
  modify fun t => { t with
    positional := s.positional, optionIndex := s.optionIndex, optionAt := s.optionAt
    loops := s.loops
    skip := match t.skip with
      | .returns _ => .none
      | skip => skip }
  match result with
  | .ok _ => pure ()
  | .error jump => throw jump

/-- Sets the variables that are assigned in front of a command; if that is `local`, for its time
only. -/
def assignAll (isLocal exported : Bool) (assignments : List Word) : Sh (List String) :=
  assignments.mapM fun word => do
    let text ← Expansion.text (outputOf run) { assigns := true } word
    let (name, value) := Builtin.splitAssignment text
    if isLocal then Sh.makeLocal name
    Sh.assign name (value.getD "")
    if isLocal || exported then Sh.mark name true false
    return text

/-- Undoes what a command has redirected and made local. -/
def restore (redirections locals : Nat) (drop : Bool) : Sh Unit := do
  let s ← get
  for _ in [redirections : s.redirected.length] do Redirect.pop drop
  for _ in [locals : s.locals.length] do Sh.popLocals

/-- Runs what a simple command stands for, after its redirections and assignments. -/
def runFound (m : Manner) (l : Leading) (texts : List String) : Sh Nat := do
  match l.builtin, texts with
  | _, [] => withStatus (← get).substituted
  | some b, _ :: operands => do
    match ← Sh.attempt (callBuiltin exec run m b.name operands) with
    | .ok () => return (← get).status
    | .error .mistake =>
      if l.isSpecial == some true then throw .mistake
      return (← get).status
    | .error .leave => leave
  | none, name :: operands => do
    match ← Lookup.find name (!l.skipsFunctions) l.path with
    | .missing e =>
      Sh.warn (name ++ ": " ++ Lookup.reason e)
      withStatus 127
    | .function body =>
      callFunction run m body operands
      return (← get).status
    | .program first =>
      runProgram exec m texts (l.path.getD (Lookup.path (← get))) first
    | .path => runProgram exec m texts "" 0
    | .builtin _ => return 0

def runSimple (m : Manner) (line : Nat) (assignments words : List Word)
    (redirections : List Redirection) : Sh Nat := do
  setLine line
  modify fun s => { s with substituted := 0 }
  let (first, rest) ← expandNext run words
  let l : Leading := { texts := first, rest }
  let l ← if first.isEmpty then pure l else lead run l (words.length + first.length + 1)
  let more ← expandRest run ((l.builtin.map (·.assigns)).getD false) l.rest
  let texts := l.texts ++ more
  let isExec := (l.builtin.map (·.name)) == some "exec"
  let isLocal := !texts.isEmpty && l.isSpecial != some true
  let before ← get
  if isLocal then Sh.pushLocals
  let prepared ← prepareAll run redirections
  if !redirections.isEmpty then Redirect.push
  let result ← Sh.attempt do
    let status ← Redirect.applyAll (outputOf run) prepared
    if status != 0 then
      Sh.setStatus status
      if l.isSpecial == some true then throw .mistake
      return status
    let assigned ← assignAll run isLocal (isExec && texts.length > 1) assignments
    trace run (!redirections.isEmpty) assigned (l.dropped ++ texts)
    runFound exec run m l texts
  restore before.redirected.length before.locals.length isExec
  match result with
  | .ok status => return status
  | .error jump => throw jump

/-! ## Other commands -/

/-- Starts the commands of a pipeline, each of which reads what the one before it writes. -/
def startAll (m : Manner) (number : Nat) (ground : Job.Ground) (previous : Option Nat) :
    List Command → Sh Unit
  | [] => pure ()
  | command :: rest => do
    match command with
    | .simple _ _ (word :: _) _ =>
      let name := Word.plain word
      if isName name && name.length == word.length then
        let _ ← Lookup.find name true none
    | _ => pure ()
    let pipe ← if rest.isEmpty then pure none else some <$> Sh.makePipe
    let _ ← Job.start (some number) ground do
      Sh.act do
        match pipe with
        | some (readEnd, _) => Act.close readEnd
        | none => pure ()
        match previous with
        | some fd =>
          if 0 < fd then
            let _ ← Act.call (World.duplicate fd 0)
            Act.close fd
        | none => pure ()
        match pipe with
        | some (_, writeEnd) =>
          if 1 < writeEnd then
            let _ ← Act.call (World.duplicate writeEnd 1)
            Act.close writeEnd
        | none => pure ()
      whole run (run { m with exits := true } (some command))
    Sh.act do
      match previous with
      | some fd => Act.close fd
      | none => pure ()
      match pipe with
      | some (_, writeEnd) => Act.close writeEnd
      | none => pure ()
    startAll m number ground (pipe.map (·.1)) rest

def runPipe (m : Manner) (background : Bool) (commands : List Command) : Sh Nat := do
  let number ← Job.create
  startAll run m number (if background then .background else .foreground) none commands
  if background then return 0 else Job.finish number

def runSubshell (m : Manner) (background : Bool) (line : Nat) (body : Option Command)
    (redirections : List Redirection) : Sh Nat := do
  setLine line
  let prepared ← prepareAll run redirections
  let inside (m : Manner) : Sh Nat := do
    prepared.forM (Redirect.apply (outputOf run) false)
    let _ ← run { m with exits := true } body
    leave
  if !background && m.exits && !hasTraps (← get) then inside m
  else
    let number ← Job.create
    let ground : Job.Ground := if background then .background else .foreground
    let _ ← Job.start (some number) ground
      (whole run (inside { m with tested := m.tested && !background }))
    if background then return 0 else Job.finish number

def runRedirected (m : Manner) (line : Nat) (body : Command) (redirections : List Redirection) :
    Sh Nat := do
  setLine line
  let prepared ← prepareAll run redirections
  let depth := (← get).redirected.length
  Redirect.push
  let status ← Redirect.applyAll (outputOf run) prepared
  let status ← if status != 0 then pure status else run { tested := m.tested } (some body)
  restore depth (← get).locals.length false
  return status

/-- Goes on with a loop as long as its condition is as wanted. -/
def runLoopFrom (m : Manner) (untilHolds : Bool) (condition body : Option Command) (status : Nat) :
    Nat → Sh Nat
  | 0 => return status
  | fuel + 1 => do
    let code ← run { tested := true } condition
    match ← skipInLoop with
    | .none =>
      if (code != 0) != untilHolds then return status
      let status ← run { tested := m.tested } body
      match ← skipInLoop with
      | .none | .continues _ => runLoopFrom m untilHolds condition body status fuel
      | _ => return status
    | .continues _ => runLoopFrom m untilHolds condition body status fuel
    | .returns _ => return code
    | .breaks _ => return status

def runEach (m : Manner) (name : String) (body : Option Command) (status : Nat) :
    List String → Sh Nat
  | [] => return status
  | text :: rest => do
    Sh.assign name text
    let status ← run { tested := m.tested } body
    match ← skipInLoop with
    | .none | .continues _ => runEach m name body status rest
    | _ => return status

/-- Runs a loop, which is one more around the commands in it. -/
def insideLoop (loop : Sh Nat) : Sh Nat := do
  modify fun s => { s with loops := s.loops + 1 }
  let status ← loop
  modify fun s => { s with loops := s.loops - 1 }
  return status

/-- Whether a text matches one of these patterns. -/
def matchesAny (text : String) : List Word → Sh Bool
  | [] => return false
  | word :: rest => do
    let pattern ← Expansion.pattern (outputOf run) word
    if pattern.matchesText text.toList then return true
    matchesAny text rest

def runSelect (m : Manner) (text : String) : List (List Word × Option Command) → Sh Nat
  | [] => return 0
  | (patterns, body) :: rest => do
    if ← isSkipping then return 0
    if ← matchesAny run text patterns then
      if body.isSome && !(← isSkipping) then run m body else return 0
    else runSelect m text rest

/-- Runs a command and gives its status, which is also kept unless the command is left early. The
second value tells whether a failure may end the script. -/
def runCommand (m : Manner) : Command → Sh (Nat × Bool)
  | .negated command => do
    let code ← run { tested := true } (some command)
    return (← withStatus (if code == 0 then 1 else 0), false)
  | .redirected line body redirections => do
    return (← withStatus (← runRedirected run m line body redirections), false)
  | .simple line assignments words redirections => do
    return (← withStatus (← runSimple exec run m line assignments words redirections), true)
  | .forEach line name words body => do
    setLine line
    let texts ← expandWords run words
    return (← withStatus (← insideLoop (runEach run m name body 0 texts)), false)
  | .loop untilHolds condition body => do
    return (← withStatus (← insideLoop (runLoopFrom run m untilHolds condition body 0 manyRounds)),
      false)
  | .subshell line body redirections => do
    return (← withStatus (← runSubshell run m false line body redirections), true)
  | .background line body redirections => do
    return (← withStatus (← runSubshell run m true line (some body) redirections), true)
  | .pipe background commands => do
    return (← withStatus (← runPipe run m background commands), true)
  | .select line word clauses => do
    setLine line
    let text ← Expansion.text (outputOf run) { tilde := true } word
    return (← withStatus (← runSelect run m text clauses), false)
  | .both first second => do
    let code ← run { tested := true } (some first)
    if code != 0 || (← isSkipping) then return (code, false)
    return (← withStatus (← run m (some second)), false)
  | .either first second => do
    let code ← run { tested := true } (some first)
    if code == 0 || (← isSkipping) then return (code, false)
    return (← withStatus (← run m (some second)), false)
  | .sequence first second => do
    let code ← run { tested := m.tested } (some first)
    if ← isSkipping then return (code, false)
    return (← withStatus (← run m (some second)), false)
  | .conditional condition consequent alternative => do
    let code ← run { tested := true } condition
    if ← isSkipping then return (code, false)
    if code == 0 then return (← withStatus (← run m consequent), false)
    else match alternative with
      | some _ => return (← withStatus (← run m alternative), false)
      | none => return (← withStatus 0, false)
  | .function _ name body => do
    modify fun s => { s with
      functions := (name, body) :: s.functions.filter (·.1 != name)
      found := s.found.filter (·.1 != name) }
    return (← withStatus 0, false)

/-- Runs a command between two looks for signals. -/
def runTree (m : Manner) (command : Option Command) : Sh Nat := do
  let (status, mayEnd) ← match command with
    | none => pure (0, false)
    | some command =>
      if (← get).option "noexec" then pure (0, false)
      else
        checkSignals run
        runCommand exec run m command
  checkSignals run
  if mayEnd && status != 0 && !m.tested && (← get).option "errexit" then leave
  if m.exits then leave
  return status

end

/-- Runs a command. The number bounds how deep commands are nested. -/
def evaluate (exec : Act.Exec) : Nat → Manner → Option Command → Sh Nat
  | 0 => fun _ _ => return 0
  | depth + 1 => runTree exec (evaluate exec depth)

/-- Commands may be nested deeper than any script nests them. -/
def maxDepth : Nat := 1000000

end PipeShell.Host.Script
