import PipeShell.Host.Number.Floating
import PipeShell.Host.Script.Builtin.Operands

/-! # Builtins for variables and parameters

`export`, `readonly`, `local`, `unset`, `set`, `shift` and `getopts`. -/

namespace PipeShell.Host.Script.Builtin

/-- Checks the name of a variable that is to be set. -/
def checkName (name : String) : Sh Unit := do
  if !isName name then
    let shown := String.ofList (name.toList.takeWhile (· != '='))
    Sh.fail (shown ++ ": bad variable name")

/-- A name and, behind an equals sign, a value. -/
def splitAssignment (text : String) : String × Option String :=
  match text.splitOn "=" with
  | name :: value :: more => (name, some ("=".intercalate (value :: more)))
  | _ => (text, none)

/-- Prints variables as commands that set them, in the order of their names. -/
def showVariables (lead : String) (fits : Variable → Bool) : Sh Unit := do
  let shown := (← get).bindings.filter fun (_, v) => fits v
  for (name, v) in shown.mergeSort fun a b => a.1 ≤ b.1 do
    let value := match v.value with
      | some value => "=" ++ quoted value
      | none => ""
    Sh.print (lead ++ (if lead.isEmpty then "" else " ") ++ name ++ value ++ "\n")

/-- Marks variables as exported or read-only, or shows those that are. -/
def markVariables (name : String) (operands : List String) : Sh Nat := do
  let (given, operands) ← options [('p', false)] operands
  let exports := name == "export"
  if !given.isEmpty || operands.isEmpty then
    showVariables name fun v => if exports then v.isExported else v.isReadOnly
  else
    for operand in operands do
      let (target, value) := splitAssignment operand
      match value with
      | some value =>
        checkName target
        Sh.assign target value
      | none => if ((← get).lookup? target).isNone then checkName target
      Sh.mark target exports (!exports)
  return 0

/-- Makes variables local to the function that is run. -/
def declareLocals (operands : List String) : Sh Nat := do
  if (← get).locals.isEmpty then Sh.fail "not in a function"
  for operand in operands do
    if operand == "-" then
      modify fun s => match s.locals with
        | [] => s
        | saved :: outer => { s with locals := (.options s.options :: saved) :: outer }
    else
      let (name, value) := splitAssignment operand
      checkName name
      Sh.makeLocal name
      match value with
      | some value => Sh.assign name value
      | none => if ((← get).lookup? name).isNone then Sh.mark name false false
  return 0

def unsetNames (operands : List String) : Sh Nat := do
  let (given, operands) ← options [('v', false), ('f', false)] operands
  for name in operands do
    if lastIs given 'f' then
      modify fun s => { s with functions := s.functions.filter (·.1 != name) }
    else
      checkName name
      match (← get).lookup? name with
      | some v =>
        if v.isReadOnly then Sh.fail (name ++ ": is read only")
        modify (·.removeVariable name)
      | none => pure ()
  return 0

/-! ## Options and parameters -/

def setLetter (c : Char) (on : Bool) : Sh Unit := do
  match Scope.optionNames.find? (·.2 == some c) with
  | some (name, _) => modify (·.setOption name on)
  | none => Sh.fail ("Illegal option -" ++ String.ofList [c])

/-- Shows the options with their names. Until an interpreter has read its own options they all
count as set. -/
def showOptions (asCommands starting : Bool) : Sh Unit := do
  let s ← get
  if !asCommands then Sh.print "Current option settings\n"
  for (name, _) in Scope.optionNames do
    let on := starting || s.option name
    if asCommands then Sh.print ("set " ++ (if on then "-o " else "+o ") ++ name ++ "\n")
    else Sh.print (name ++ Number.Floating.repeated ' ' (16 - name.length) ++ (if on then "on" else "off") ++ "\n")

/-- Sets an option by name, or shows all. -/
def setNamed (name : Option String) (on starting : Bool) : Sh Unit := do
  match name with
  | none => showOptions (!on) starting
  | some name =>
    if Scope.optionNames.any (·.1 == name) then modify (·.setOption name on)
    else Sh.fail ("Illegal option -o " ++ name)

/-- The options of an interpreter: whether it is given a script as an operand, and what follows. -/
structure Options where
  hasCommand : Bool := false
  /-- The options were ended by a word for that. -/
  ended : Bool := false
  rest : List String

/-- Reads options as `set` and the interpreter itself take them. -/
def setOptions (starting hasCommand : Bool) : List String → Nat → Sh Options
  | rest, 0 => return { hasCommand, rest }
  | [], _ => return { hasCommand, rest := [] }
  | word :: rest, fuel + 1 => match word.toList with
    | ['-'] => do
      if !starting then
        modify fun s => (s.setOption "xtrace" false).setOption "verbose" false
      return { hasCommand, rest }
    | ['-', '-'] => return { hasCommand, ended := true, rest }
    | sign :: letters => do
      if sign != '-' && sign != '+' then return { hasCommand, rest := word :: rest }
      let mut hasCommand := hasCommand
      let mut rest := rest
      for c in letters do
        if c == 'c' && starting then hasCommand := true
        else if c == 'l' && starting then pure ()
        else if c == 'o' then
          setNamed rest.head? (sign == '-') starting
          rest := rest.drop 1
        else setLetter c (sign == '-')
      setOptions starting hasCommand rest fuel
    | [] => return { hasCommand, rest := word :: rest }

def setParameters (texts : List String) : Sh Unit :=
  modify fun s => { s with positional := texts, optionIndex := 1, optionAt := 0 }

def setState (operands : List String) : Sh Nat := do
  if operands.isEmpty then showVariables "" fun v => v.value.isSome
  else
    let o ← setOptions false false operands operands.length
    if o.ended || !o.rest.isEmpty then setParameters o.rest
  return 0

def shiftParameters (operands : List String) : Sh Nat := do
  let n ← match operands with
    | [] => pure 1
    | text :: _ => Sh.number text
  let s ← get
  if s.positional.length < n then Sh.fail "can't shift that many"
  set { s with positional := s.positional.drop n, optionIndex := 1, optionAt := 0 }
  return 0

/-- The next option of a script: its letter goes into a variable, its argument into another one.
The status says whether there are no more. -/
def getopts (operands : List String) : Sh Nat := do
  match operands with
  | allowed :: target :: words => do
    let s ← get
    let words := if words.isEmpty then s.positional else words
    let inRange := 1 ≤ s.optionIndex && s.optionIndex ≤ words.length + 1
    let index := if inRange then s.optionIndex else 1
    let place := if inRange then s.optionAt else 0
    let word (i : Nat) : Option (List Char) := words[i]?.map String.toList
    let silent := allowed.startsWith ":"
    let finish (index place : Nat) (c : Char) (done : Bool) : Sh Nat := do
      Sh.assign "OPTIND" (toString index)
      Sh.assign target (String.ofList [c])
      modify fun s => { s with optionIndex := index, optionAt := place }
      return if done then 1 else 0
    let refuse (message : String) (marker c : Char) (index place : Nat) : Sh Nat := do
      if silent then Sh.assign "OPTARG" (String.ofList [c])
      else
        Sh.put 2 (message ++ String.ofList [c] ++ (if marker == ':' then " option\n" else "\n"))
        modify (·.removeVariable "OPTARG")
      finish index place (if silent then marker else '?') false
    let use (index place : Nat) (c : Char) (cs : List Char) : Sh Nat := do
      match takesArgument? c allowed.toList with
      | none => refuse "Illegal option -" '?' c index place
      | some false =>
        Sh.assign "OPTARG" ""
        finish index place c false
      | some true =>
        if !cs.isEmpty then
          Sh.assign "OPTARG" (String.ofList cs)
          finish index 0 c false
        else match word (index - 1) with
          | some argument =>
            Sh.assign "OPTARG" (String.ofList argument)
            finish (index + 1) 0 c false
          | none => refuse "No arg for -" ':' c index 0
    -- Letters that are left of the word before come first.
    match if index ≤ 1 || place == 0 then [] else ((word (index - 2)).getD []).drop place with
    | c :: cs => use index (place + 1) c cs
    | [] => match word (index - 1) with
      | some ['-', '-'] => finish (index + 1) 0 '?' true
      | some ('-' :: c :: cs) => use (index + 1) 2 c cs
      | _ => finish index 0 '?' true
  | _ => Sh.fail "Usage: getopts optstring var [arg]"
where
  /-- Whether a letter is an option, and whether it takes an argument. -/
  takesArgument? (c : Char) : List Char → Option Bool
    | [] => none
    | d :: ':' :: rest => if c == d then some true else takesArgument? c rest
    | d :: rest => if c == d then some false else takesArgument? c rest

end PipeShell.Host.Script.Builtin
