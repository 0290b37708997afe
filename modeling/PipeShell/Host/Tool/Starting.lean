import PipeShell.Host.Number.Floating
import PipeShell.Host.Signals
import PipeShell.Host.Tool.Amount
import PipeShell.Host.Tool.Options

/-! # Tools that start programs

They change what a program is run with, its signals, priority or time, and turn into it or wait for
it. Besides there is `sleep`, which reads times in the same way, and there are the tools for security
contexts. -/

namespace PipeShell.Host.Tool
namespace Starting

def defaultPath : String := "/bin:/usr/bin"

/-- Turns the task into a program, which is looked for if its name has no slash; a file in no known
format is left to the command interpreter. Why that is not possible is the answer. -/
def become (exec : Act.Exec) (argv environment : List String) : Tool Errno := do
  flush
  let name := argv.headD ""
  let attempt (path : String) : Act Errno := do
    let e ← exec path argv environment
    if e = .execFormat then exec "/bin/sh" ("/bin/sh" :: path :: argv.drop 1) environment else pure e
  let rec attempts (reason : Errno) : List String → Act Errno
    | [] => pure reason
    | path :: rest => do
      let e ← attempt path
      if e = .notFound || e = .notDirectory then attempts reason rest
      else if e = .accessDenied then attempts e rest
      else pure e
  if name.isEmpty then return .notFound
  if name.toList.contains '/' then act (attempt name)
  else
    let path := (valueIn environment "PATH").getD defaultPath
    act (attempts .notFound ((path.splitOn ":").map fun dir => if dir.isEmpty then name else dir ++ "/" ++ name))

/-- The code of a tool that cannot start a program. -/
def codeFor (e : Errno) : Nat := if e = .notFound then 127 else 126

/-- The code of a tool that was called in a wrong way, so that no program was started. -/
def canceled : Nat := 125

/-- The signal that a word stands for. -/
def signalOf (word : String) : Tool Nat :=
  match Signals.ofOperand? word with
  | some signal => return signal
  | none => misuse canceled (quote word ++ ": invalid signal")

/-! ## Times -/

def unitOf? (c : Char) : Option Nat :=
  [('s', 1), ('m', 60), ('h', 3600), ('d', 86400)].lookup c

/-- A time in seconds, minutes, hours or days, in microseconds. -/
def interval? (text : String) : Option Nat := do
  let (x, _, rest) ← Number.Floating.read? .double text.toList
  let unit ← match rest with
    | [] => some 1
    | [c] => unitOf? c
    | _ => none
  match x with
  | .finite negative m e =>
    if negative && m != 0 then none
    else
      let (num, den) := Number.Floating.timesPower (m * unit * 1000000) 1 2 e
      some ((num + den - 1) / den)
  | .infinite false => some (2 ^ 63)
  | _ => none

def refuseInterval (text : String) : Tool Unit := warn ("invalid time interval " ++ quote text)

end Starting

open Starting

/-! ## Programs -/

def nohup (call : Call) : Tool Nat := do
  let p ← parse [] true canceled call.operands
  match p.operands with
  | [] => missingOperand canceled
  | name :: _ =>
    act (Act.setDisposition 1 .ignored)
    let e ← become call.exec p.operands call.environment
    warn ("failed to run command " ++ shellQuoted name ++ ": " ++ e.message)
    return codeFor e

def niceSwitches : List Switch := [.letter 'n' "adjustment" .required]

/-- The words with each adjustment that is given behind one dash as an option. -/
def adjusted : List String → List String
  | [] => []
  | [word] => [adjustedWord word]
  | word :: next :: rest =>
    if takesNext niceSwitches word then word :: next :: adjusted rest
    else if word.startsWith "-" && word != "--" then adjustedWord word :: adjusted (next :: rest)
    else word :: next :: rest
where
  adjustedWord (word : String) : String :=
    match word.toList with
    | '-' :: cs =>
      let digits := match cs with
        | '-' :: ds | '+' :: ds => ds
        | ds => ds
      if digits.head?.any Char.isDigit then "-n" ++ String.ofList cs else word
    | _ => word

def nice (call : Call) : Tool Nat := do
  let p ← parse niceSwitches true canceled (adjusted call.operands)
  let asked : Int ← match p.last? "n" with
    | none => pure 10
    | some text => match Amount.read true "" text with
      | .ok n => pure n
      | .error .tooLarge => pure (if text.toList.contains '-' then -39 else 39)
      | .error _ => fail canceled ("invalid adjustment " ++ quote text)
  let niceness ← act (Act.look (·.currentTask.niceness))
  match p.operands with
  | [] =>
    if p.has "n" then misuse canceled "a command must be given with an adjustment"
    print (toString niceness ++ "\n")
    return 0
  | name :: _ =>
    let new := max (-20) (min 19 (niceness + max (-39) (min 39 asked)))
    act (Act.change fun w => w.modifyCurrent fun t => { t with niceness := new })
    let e ← become call.exec p.operands call.environment
    warnOf (quote name) e
    return codeFor e

/-- The library that changes how a program collects what it writes. -/
def bufferLibrary : String := "/usr/libexec/coreutils/libstdbuf.so"

/-- What a program is told of a mode: lines, or a size. -/
def bufferMode (text : String) : Tool String := do
  if text == "L" then return text
  match Amount.read false "EGkKMPTYZ0" text with
  | .ok n => return toString n
  | .error .tooLarge => fail canceled ("invalid mode " ++ quote text ++ ": " ++ valueTooLarge.message)
  | .error _ => fail canceled ("invalid mode " ++ quote text)

def stdbuf (call : Call) : Tool Nat := do
  let add (modes : List (String × String)) (given : Given) : Tool (List (String × String)) := do
    let (key, value) := given
    let text := String.ofList ((value.getD "").toList.dropWhile Number.Floating.isSpace)
    if key == "i" && text == "L" then misuse canceled "line buffering stdin is meaningless"
    return (key, ← bufferMode text) :: modes
  let (p, modes) ← parseInto [.letter 'i' "input" .required, .letter 'o' "output" .required,
    .letter 'e' "error" .required] true canceled call.operands [] add
  match p.operands with
  | [] => missingOperand canceled
  | name :: _ =>
    if p.given.isEmpty then misuse canceled "you must specify a buffering mode option"
    let told := ["i", "o", "e"].filterMap fun key =>
      (modes.lookup key).map fun mode => ("_STDBUF_" ++ key.map Char.toUpper, mode)
    let preload := match valueIn call.environment "LD_PRELOAD" with
      | some before => before ++ ":" ++ bufferLibrary
      | none => bufferLibrary
    let environment := (told ++ [("LD_PRELOAD", preload)]).foldl
      (fun (entries : List String) (name, value) =>
        let entry := name ++ "=" ++ value
        if entries.any (·.startsWith (name ++ "=")) then
          entries.map fun e => if e.startsWith (name ++ "=") then entry else e
        else entries ++ [entry])
      call.environment
    let e ← become call.exec p.operands environment
    warn ("failed to run command " ++ quote name ++ ": " ++ e.message)
    return codeFor e

/-! ## Time -/

def sleep (call : Call) : Tool Nat := do
  let p ← parse [] false 1 call.operands
  if p.operands.isEmpty then missingOperand 1
  let times := p.operands.map interval?
  for (text, time) in p.operands.zip times do
    if time.isNone then refuseInterval text
  if times.contains none then tryHelp 1
  let start ← act Act.now
  act (Act.sleepUntil (start + (times.filterMap id).foldl (· + ·) 0) fun _ => false)
  return 0

/-- Waits for a child until a time. -/
def childEndsBy (pid time : Nat) : Tool (Option ExitStatus) := do
  act (Act.sleepUntil time fun w => w.tasks.any fun t => t.pid == pid && t.ended.isSome)
  return (← act (Act.poll (some pid))).map (·.2)

def timeout (call : Call) : Tool Nat := do
  let intervalOf (text : String) : Tool Nat := do
    match interval? text with
    | some time => return time
    | none =>
      refuseInterval text
      tryHelp canceled
  let add (state : Option Nat × Nat) (given : Given) : Tool (Option Nat × Nat) := do
    let text := given.2.getD ""
    match given.1 with
    | "k" => return (some (← intervalOf text), state.2)
    | "s" => return (state.1, ← signalOf text)
    | _ => return state
  let (p, killAfter, signal) ← parseInto [⟨"foreground", "foreground", .none⟩,
    .letter 'k' "kill-after" .required, ⟨"preserve", "preserve-status", .none⟩,
    .letter 's' "signal" .required, .letter 'v' "verbose" .none] true canceled call.operands (none, 15) add
  match p.operands with
  | text :: argv@(name :: _) =>
    let time ← intervalOf text
    act (Act.setDisposition World.childSignal .byDefault)
    let pid ← act (Act.fork do
      let body : Tool Nat := do
        let e ← become call.exec argv call.environment
        warn ("failed to run command " ++ quote name ++ ": " ++ e.message)
        return codeFor e
      Tool.run call.name call.environment body)
    let start ← act Act.now
    let limit := if time == 0 then start + 2 ^ 62 else start + time
    let shownSignal (n : Nat) : String := (Signals.label? n).getD (toString n)
    let kill (n : Nat) : Tool Unit := do
      if p.has "v" then warn ("sending signal " ++ shownSignal n ++ " to command " ++ quote name)
      let _ ← act (Act.send pid n)
    let codeOf (status : Act.Waited) (timedOut : Bool) : Tool Nat := do
      match status with
      | .child _ (.exited code) => return if timedOut && !p.has "preserve" then 124 else code.toNat
      | .child _ (.signaled n) =>
        if !timedOut then
          act (Act.setDisposition n.toNat .byDefault)
          let _ ← act (Act.send (← act Act.pid) n.toNat)
        return if timedOut && !p.has "preserve" && n != 9 then 124 else 128 + n.toNat
      | _ => return canceled
    match ← childEndsBy pid limit with
    | some status => codeOf (.child pid status) false
    | none =>
      kill signal
      match killAfter with
      | none => codeOf (← act (Act.wait (some pid) false)) true
      | some more =>
        match ← childEndsBy pid ((← act Act.now) + more) with
        | some status => codeOf (.child pid status) true
        | none =>
          kill 9
          codeOf (← act (Act.wait (some pid) false)) true
  | _ => tryHelp canceled

/-! ## Security contexts

No host keeps contexts, so the tools for them can only refuse. -/

def chcon (call : Call) : Tool Nat := do
  let p ← parse [⟨"dereference", "dereference", .none⟩, .letter 'h' "no-dereference" .none,
    .letter 'H' "" .none, .letter 'L' "" .none, .letter 'P' "" .none, .letter 'R' "recursive" .none,
    .letter 'v' "verbose" .none, .letter 'u' "user" .required, .letter 'r' "role" .required,
    .letter 't' "type" .required, .letter 'l' "range" .required,
    ⟨"reference", "reference", .required⟩, ⟨"preserve-root", "preserve-root", .none⟩,
    ⟨"no-preserve-root", "no-preserve-root", .none⟩] false 1 call.operands
  let hasParts := p.hasAny ["u", "r", "t", "l"]
  let needed := if p.has "reference" || hasParts then 1 else 2
  match p.operands with
  | [] => missingOperand 1
  | [operand] => if needed == 2 then missingAfter 1 operand
  | _ => pure ()
  let mut code := 0
  for path in (if needed == 2 then p.operands.drop 1 else p.operands) do
    code := 1
    match ← files fun fs cwd => fs.resolve cwd path true with
    | .error e => warnOf ("cannot access " ++ shellQuoted path) e
    | .ok _ =>
      if hasParts then warn ("can't apply partial context to unlabeled file " ++ shellQuoted path)
      else warnOf ("failed to change context of " ++ shellQuoted path ++ " to " ++
        quoteName (p.operands.headD "")) ⟨95⟩
  return code

def runcon (call : Call) : Tool Nat := do
  let p ← parse [.letter 'c' "compute" .none, .letter 'l' "range" .required,
    .letter 'r' "role" .required, .letter 't' "type" .required, .letter 'u' "user" .required]
    true Starting.canceled call.operands
  let hasParts := p.hasAny ["c", "u", "r", "t", "l"]
  if p.operands.isEmpty && !hasParts then
    fail Starting.canceled "failed to get current context: Invalid argument"
  let command := if hasParts then p.operands else p.operands.drop 1
  if command.isEmpty then misuse Starting.canceled "no command specified"
  fail Starting.canceled "runcon may be used only on a SELinux kernel"

end PipeShell.Host.Tool
