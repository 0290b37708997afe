import PipeShell.Host.Tool.Starting

/-! # Tools for the environment

`printenv` shows the environment, and `env` runs a program in a changed one: with other variables, in
another directory, with other effects of signals. The words of `env` may stand in one of them, which
is split as a simple shell would do it. -/

namespace PipeShell.Host.Tool
open Starting

namespace Variables

/-- The name of a variable. -/
def nameOf (entry : String) : String := String.ofList (entry.toList.takeWhile (· != '='))

/-- Gives a variable a value, in its place if it has one. -/
def assign (environment : List String) (entry : String) : List String :=
  let name := nameOf entry
  if environment.any (nameOf · == name) then
    environment.map fun old => if nameOf old == name then entry else old
  else environment ++ [entry]

def showAll (stop : Char) (entries : List String) : Tool Unit :=
  print (String.join (entries.map fun e => e.push stop))

/-! ## Splitting -/

/-- The words that a text has been split into, the last one first. -/
structure Split where
  words : List String := []
  /-- Whether the next character begins a word. -/
  isApart : Bool := true
  /-- The quotation mark that is open. -/
  mark : Option Char := none

namespace Split

def start (s : Split) : Split :=
  if s.isApart then { s with words := "" :: s.words, isApart := false } else s

def add (text : String) (s : Split) : Split :=
  match s.start with
  | s@{ words := word :: before, .. } => { s with words := (word ++ text) :: before }
  | s => s

end Split

/-- The variable in braces behind a dollar sign, and what follows it. -/
def braced? : List Char → Option (String × List Char)
  | '\x7b' :: c :: cs =>
    if !(c.isAlpha || c == '_') then none
    else
      let more := cs.takeWhile fun c => c.isAlphanum || c == '_'
      match cs.drop more.length with
      | '\x7d' :: rest => some (String.ofList (c :: more), rest)
      | _ => none
  | _ => none

def isSpace (c : Char) : Bool := c == ' ' || ('\t' ≤ c && c ≤ '\r')

/-- Splits a text into words. What becomes of variables is told if `verbose`. The number is more than
the text has characters. -/
def splitFrom (environment : List String) (verbose : Bool) (s : Split) (cs : List Char) :
    Nat → Tool Split
  | 0 => return s
  | fuel + 1 => do
    let go (s : Split) (rest : List Char) := splitFrom environment verbose s rest fuel
    match cs with
    | [] => if s.mark.isSome then fail canceled "no terminating quote in -S string" else return s
    | c :: rest =>
      let own : Tool Split := go (s.add (String.ofList [c])) rest
      if c == '\'' || c == '"' then
        match s.mark with
        | none => go { s.start with mark := some c } rest
        | some open_ => if open_ == c then go { s.start with mark := none } rest else own
      else if isSpace c then
        if s.mark.isSome then own else go { s with isApart := true } rest
      else if c == '#' then
        if s.isApart then return s else own
      else if c == '$' then
        if s.mark == some '\'' then own
        else match braced? rest with
          | none => fail canceled ("only $\x7bVARNAME\x7d expansion is supported, error at: " ++ String.ofList cs)
          | some (name, rest) =>
            let shown := "$\x7b" ++ name ++ "\x7d"
            match valueIn environment name with
            | some value =>
              if verbose then note ("expanding " ++ shown ++ " into " ++ quote value ++ "\n")
              go (s.add value) rest
            | none =>
              if verbose then note ("replacing " ++ shown ++ " with null string\n")
              go s rest
      else if c == '\\' then
        match rest with
        | [] =>
          if s.mark == some '\'' then own else fail canceled "invalid backslash at end of string in -S"
        | d :: after =>
          let put (c : Char) : Tool Split := go (s.add (String.ofList [c])) after
          if s.mark == some '\'' && d != '\\' && d != '\'' then own
          else if "\"#$'\\".toList.contains d then put d
          else if d == '_' then
            if s.mark == some '"' then put ' ' else go { s with isApart := true } after
          else if d == 'c' then
            if s.mark == some '"' then fail canceled "'\\c' must not appear in double-quoted -S string"
            return s
          else match [('f', '\x0c'), ('n', '\n'), ('r', '\r'), ('t', '\t'), ('v', '\x0b')].lookup d with
            | some c => put c
            | none => fail canceled ("invalid sequence '\\" ++ String.ofList [d] ++ "' in -S")
      else own

/-- The words of a text. -/
def wordsOf (environment : List String) (verbose : Bool) (text : String) : Tool (List String) := do
  let s ← splitFrom environment verbose {} text.toList (text.length + 1)
  let words := s.words.reverse
  if verbose then
    note ("split -S:  " ++ quote text ++ "\n into:    " ++ quote (words.headD "") ++ "\n")
    for word in words.drop 1 do note ("     &    " ++ quote word ++ "\n")
  return words

def switches : List Switch := [.letter 'i' "ignore-environment" .none, .letter '0' "null" .none,
  .letter 'u' "unset" .required, .letter 'C' "chdir" .required,
  ⟨"default", "default-signal", .optional⟩, ⟨"ignore", "ignore-signal", .optional⟩,
  ⟨"block", "block-signal", .optional⟩, ⟨"list", "list-signal-handling", .none⟩,
  .letter 'v' "debug" .none, .letter 'S' "split-string" .required]

/-- What one of the words in front of the operands is made of. -/
inductive Piece where
  /-- It is an option, and so is the word behind it if `takesNext`. -/
  | option (takesNext : Bool)
  /-- Some letters, and a text to be split; nothing if that is the next word. -/
  | split (letters : String) (text : Option String)
  /-- A blank among the letters. -/
  | blank (c : Char)

/-- What the letters of a word are. -/
def pieceOfLetters (before : List Char) : List Char → Piece
  | [] => .option false
  | 'S' :: rest => .split (String.ofList before.reverse) (if rest.isEmpty then none else some (String.ofList rest))
  | c :: rest =>
    if isSpace c then .blank c
    else match switches.find? (·.isLetter c) with
      | some s => match s.arity with
        | .none => pieceOfLetters (c :: before) rest
        | _ => .option rest.isEmpty
      | none => .option false

/-- What a word in front of the operands is; nothing for an operand. -/
def pieceOf? (word : String) : Option Piece :=
  match word.toList with
  | '-' :: '-' :: [] | ['-'] => none
  | '-' :: '-' :: cs =>
    let text := String.ofList cs
    let (name, value) : String × Option String := match text.splitOn "=" with
      | name :: v :: more => (name, some ("=".intercalate (v :: more)))
      | _ => (text, none)
    match switchFor (switches ++ [⟨"help", "help", .none⟩, ⟨"version", "version", .none⟩]) name text with
    | .ok s =>
      if s.key == "S" then some (.split "" value)
      else some (.option (s.arity == .required && value.isNone))
    | .error _ => some (.option false)
  | '-' :: cs => some (pieceOfLetters [] cs)
  | _ => none

/-- Puts the words of texts that are to be split in their places. The number bounds how many words
there are in front of the operands. -/
def splitAll (environment : List String) (verbose : Bool) (words : List String) : Nat → Tool (List String)
  | 0 => return words
  | fuel + 1 => do
    match words with
    | [] => return []
    | word :: rest =>
      match pieceOf? word with
      | none => return words
      | some (.option takesNext) =>
        let verbose := verbose || "--debug".startsWith word && 5 ≤ word.length ||
          (!word.startsWith "--" && word.toList.contains 'v')
        let kept := if takesNext then rest.take 1 else []
        return word :: kept ++ (← splitAll environment verbose (rest.drop kept.length) fuel)
      | some (.blank c) =>
        warn ("invalid option -- '" ++ String.ofList [c] ++ "'")
        misuse canceled "use -[v]S to pass options in shebang lines"
      | some (.split letters text) =>
        let verbose := verbose || letters.toList.contains 'v'
        let before := if letters.isEmpty then [] else ["-" ++ letters]
        match text, rest with
        | some text, rest | none, text :: rest =>
          let words ← wordsOf environment verbose text
          return before ++ (← splitAll environment verbose (words ++ rest) fuel)
        | none, [] => return words

/-- More words than can stand in front of the operands. -/
def manyWords : Nat := 100000

/-! ## Signals -/

/-- What is to be done with signals: some by name, or all as far as that is possible. -/
structure SignalChange where
  disposition : Act.Disposition
  isStrict : Bool

/-- The signals of a list, or all of them. -/
def signalsOf (list : Option String) : Tool (List Nat) := do
  match list with
  | none => return (List.range 65).filter fun n => n != 0 && (Signals.label? n).isSome
  | some text => (text.splitOn ",").filter (!·.isEmpty) |>.mapM fun word => do
    let signal ← signalOf word
    if signal == 0 then misuse canceled (quote word ++ ": invalid signal")
    return signal

/-- What options say of signals: what each does, and which of them are held back. -/
structure SignalPlan where
  changes : List (Nat × SignalChange) := []
  blocked : List (Nat × Bool) := []

def addSignals (plan : SignalPlan) (given : Given) : Tool SignalPlan := do
  let (key, list) := given
  if !(["default", "ignore", "block"].contains key) then return plan
  let signals ← signalsOf list
  let others {α : Type} (changes : List (Nat × α)) : List (Nat × α) :=
    changes.filter fun (n, _) => !signals.contains n
  let disposition : Act.Disposition := if key == "default" then .byDefault else .ignored
  return {
    changes := if key == "block" then plan.changes
      else signals.map (·, { disposition, isStrict := list.isSome }) ++ others plan.changes
    blocked := if key == "ignore" then plan.blocked
      else signals.map (·, key == "block") ++ others plan.blocked }

def shownSignal (n : Nat) : String :=
  let label := (Signals.label? n).getD ""
  label ++ " (" ++ toString n ++ ")"

/-- Puts the plan into effect. A signal that is held back has no effect, as one that is ignored. -/
def applySignals (verbose : Bool) (plan : SignalPlan) : Tool Unit := do
  for n in List.range 65 do
    if let some change := plan.changes.lookup n then
      let refused := n == 9 || n == 19
      if refused && change.isStrict then
        fail canceled ("failed to set signal action for signal " ++ toString n ++ ": Invalid argument")
      if !refused then act (Act.setDisposition n change.disposition)
      if verbose then
        note ("Reset signal " ++ shownSignal n ++ " to " ++
          (if change.disposition = .ignored then "IGNORE" else "DEFAULT") ++
          (if refused then " (failure ignored)" else "") ++ "\n")
  for n in List.range 65 do
    if let some isBlocked := plan.blocked.lookup n then
      if isBlocked && n != 9 && n != 19 && (plan.changes.lookup n).isNone then
        act (Act.setDisposition n .ignored)
      if verbose then
        note ("signal " ++ shownSignal n ++ " mask set to " ++ (if isBlocked then "BLOCK" else "UNBLOCK") ++ "\n")

/-- Shows the signals that do not have their default effect. -/
def listSignals (plan : SignalPlan) : Tool Unit := do
  let ignored := (← act (Act.look (·.currentTask))).ignored
  for n in List.range 65 do
    let isBlocked := plan.blocked.lookup n == some true && n != 9 && n != 19
    let isIgnored := if isBlocked && (plan.changes.lookup n).isNone then false else ignored.contains n
    if n != 0 && (isBlocked || isIgnored) then
      let label := (Signals.label? n).getD ""
      let number := toString n
      note (label ++ String.ofList (List.replicate (10 - label.length) ' ') ++ " (" ++
        String.ofList (List.replicate (2 - number.length) ' ') ++ number ++ "): " ++
        (if isBlocked then "BLOCK" else "") ++ (if isBlocked && isIgnored then "," else "") ++
        (if isIgnored then "IGNORE" else "") ++ "\n")

end Variables

open Variables

def env (call : Call) : Tool Nat := do
  let words ← splitAll call.environment false call.operands manyWords
  let (p, plan) ← parseInto switches true canceled words {} addSignals
  let verbose := p.has "v"
  let tell (text : Message) : Tool Unit := if verbose then note text else pure ()
  let (clears, operands) := match p.operands with
    | "-" :: rest => (true, rest)
    | rest => (p.has "i", rest)
  let unset := p.given.filterMap fun (key, value) => if key == "u" then value else none
  if clears then tell "cleaning environ\n"
  else
    for name in unset do
      tell ("unset:    " ++ name ++ "\n")
      if name.isEmpty || name.toList.contains '=' then
        fail canceled ("cannot unset " ++ quote name ++ ": Invalid argument")
  let environment := if clears then []
    else call.environment.filter fun entry => !unset.contains (nameOf entry)
  let (assignments, argv) := operands.span fun word => word.toList.contains '='
  for entry in assignments do tell ("setenv:   " ++ entry ++ "\n")
  let environment := assignments.foldl assign environment
  if p.has "0" && !argv.isEmpty then misuse canceled "cannot specify --null (-0) with command"
  if p.has "C" && argv.isEmpty then misuse canceled "must specify command with --chdir (-C)"
  match argv with
  | [] =>
    showAll (if p.has "0" then '\x00' else '\n') environment
    return 0
  | name :: _ =>
    applySignals verbose plan
    if p.has "list" then listSignals plan
    if let some path := p.last? "C" then
      tell ("chdir:    " ++ shellQuoted path ++ "\n")
      match ← files fun fs cwd => fs.resolveDirectory cwd path with
      | .ok i => act (Act.change fun w => w.modifyCurrent fun t => { t with cwd := i })
      | .error e => fail canceled ("cannot change directory to " ++ shellQuoted path ++ ": " ++ e.message)
    tell ("executing: " ++ name ++ "\n")
    for (word, i) in argv.zipIdx do tell ("   arg[" ++ toString i ++ "]= " ++ quote word ++ "\n")
    let e ← become call.exec argv environment
    warnOf (quote name) e
    if e = .notFound && name.toList.any isSpace then warn "use -[v]S to pass options in shebang lines"
    return codeFor e

def printenv (call : Call) : Tool Nat := do
  let p ← parse [.letter '0' "null" .none] true 2 call.operands
  let stop := if p.has "0" then '\x00' else '\n'
  if p.operands.isEmpty then
    showAll stop call.environment
    return 0
  let found := p.operands.filterMap fun name =>
    if name.toList.contains '=' then none else valueIn call.environment name
  showAll stop found
  return if found.length == p.operands.length then 0 else 1

end PipeShell.Host.Tool
