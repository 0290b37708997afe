import PipeShell.Host.Script.Builtin.Variables
import PipeShell.Host.Script.Source

/-! # Builtins about commands: `type`, `command -v`, `hash`, `alias` and `unalias` -/

namespace PipeShell.Host.Script.Builtin

/-- The path at which a program is, given the path of directories that was searched. -/
def programPath (path name : String) (directory : Nat) : String :=
  ((Lookup.candidates path name)[directory]?).getD name

def showAlias (name value : String) : Sh Unit := Sh.print (name ++ "=" ++ quoted value ++ "\n")

/-- Says what a name stands for, in words if `verbose`, else as a script could use it. -/
def describe (name : String) (verbose : Bool) (otherPath : Option String) : Sh Nat := do
  let s ← get
  let say (words plain : String) : Sh Nat := do
    Sh.print ((if verbose then name ++ words else plain) ++ "\n")
    return 0
  if Token.keywords.contains name then say " is a shell keyword" name
  else match s.aliases.lookup name with
    | some value =>
      if verbose then say (" is an alias for " ++ value) ""
      else
        Sh.print "alias "
        showAlias name value
        return 0
    | none =>
      let isKnown := otherPath.isNone && (s.found.lookup name).isSome
      let notFound : Sh Nat := do
        if verbose then Sh.print (name ++ ": not found\n")
        return 127
      match ← Lookup.find name true otherPath with
      | .function _ => say " is a shell function" name
      | .builtin b => say (if b.isSpecial then " is a special shell builtin" else " is a shell builtin") name
      | .program n =>
        let path := programPath (otherPath.getD (Lookup.path s)) name n
        say ((if isKnown then " is a tracked alias for " else " is ") ++ path) path
      | .path =>
        let isThere ← Sh.act (Act.files fun fs cwd => match fs.resolve cwd name true with
          | .ok _ => true
          | .error _ => false)
        if isThere then say (" is " ++ name) name else notFound
      | .missing _ => notFound

def describeAll (operands : List String) : Sh Nat := do
  let mut status := 0
  for name in operands do
    status := status ||| (← describe name true none)
  return status

/-- `command` with an option that asks what the name behind it stands for. -/
def describeOne (operands : List String) : Sh Nat := do
  let (given, operands) ← options [('p', false), ('v', false), ('V', false)] operands
  let verbose := given.any (·.1 == 'V')
  let path := if given.any (·.1 == 'p') then some Lookup.standardPath else none
  match operands with
  | name :: _ =>
    if verbose || given.any (·.1 == 'v') then describe name verbose path else return 0
  | [] => return 0

/-- Where an entry stands among those that are shown. -/
def bucket (size : Nat) (name : String) : Nat :=
  let first := (name.toList.head?.map Char.toNat).getD 0
  (name.toList.foldl (fun n c => n + c.toNat) (first * 16)) % 32768 % size

def showFound (operands : List String) : Sh Nat := do
  let (given, operands) ← options [('r', false)] operands
  if !given.isEmpty then
    modify fun s => { s with found := [] }
    return 0
  let s ← get
  if operands.isEmpty then
    for (name, n) in s.found.mergeSort fun a b => bucket 31 a.1 ≤ bucket 31 b.1 do
      Sh.print (programPath (Lookup.path s) name n ++ "\n")
    return 0
  let mut status := 0
  for name in operands do
    Lookup.remember name none
    match ← Lookup.find name true none with
    | .missing e =>
      Sh.warn (name ++ ": " ++ Lookup.reason e)
      status := 1
    | _ => pure ()
  return status

/-! ## Aliases -/

def setAliases (operands : List String) : Sh Nat := do
  let mut status := 0
  if operands.isEmpty then
    let s ← get
    for (name, value) in s.aliases.mergeSort fun a b => bucket 39 a.1 ≤ bucket 39 b.1 do
      showAlias name value
  for operand in operands do
    -- A name has at least one character.
    let rest := String.ofList (operand.toList.drop 1)
    match splitAssignment rest with
    | (name, some value) =>
      let name := String.ofList (operand.toList.take 1) ++ name
      modify fun s => { s with
        aliases := if (s.aliases.lookup name).isSome then
            s.aliases.map fun (n, v) => if n == name then (n, value) else (n, v)
          else s.aliases ++ [(name, value)] }
    | (_, none) => match (← get).aliases.lookup operand with
      | some value => showAlias operand value
      | none =>
        Sh.put 2 ("alias: " ++ operand ++ " not found\n")
        status := 1
  return status

def removeAliases (operands : List String) : Sh Nat := do
  let (given, operands) ← options [('a', false)] operands
  if !given.isEmpty then
    modify fun s => { s with aliases := [] }
    return 0
  let mut status := 0
  for name in operands do
    if ((← get).aliases.lookup name).isSome then
      modify fun s => { s with aliases := s.aliases.filter (·.1 != name) }
    else
      Sh.put 2 ("unalias: " ++ name ++ " not found\n")
      status := 1
  return status

end PipeShell.Host.Script.Builtin
