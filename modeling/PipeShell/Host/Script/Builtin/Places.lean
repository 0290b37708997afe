import PipeShell.Host.Script.Builtin.Variables

/-! # Builtins for where the script runs: `cd`, `pwd`, `umask` and `ulimit`

The interpreter keeps a name of its directory, in which links are not followed. -/

namespace PipeShell.Host.Script.Builtin

/-! ## The directory -/

/-- The name of the directory as the system knows it; empty, with a message, if it has none. -/
def systemDirectory : Sh String := do
  match ← Sh.act (Act.files fun fs cwd => fs.pathOf cwd) with
  | .ok path => return path
  | .error e =>
    Sh.warn ("getcwd() failed: " ++ e.message)
    return ""

/-- A path with its dots taken out, seen from a directory that is known by name. -/
def logical (directory path : String) : String :=
  let whole :=
    if path.startsWith "/" then path
    else if directory.endsWith "/" then directory ++ path
    else directory ++ "/" ++ path
  let head := if whole.startsWith "//" && !whole.startsWith "///" then "//" else "/"
  let names := (FileSystem.namesOf whole).foldl
    (fun (names : List String) name =>
      if name == "." then names else if name == ".." then names.drop 1 else name :: names)
    []
  head ++ "/".intercalate names.reverse

/-- Takes over a name for the directory; without one it is asked for. -/
def setDirectory (path : Option String) (keepOld : Bool) : Sh Unit := do
  if keepOld then
    Sh.assign "OLDPWD" (← get).directory
    Sh.mark "OLDPWD" true false
  let path ← match path with
    | some path => pure path
    | none => systemDirectory
  modify fun s => { s with directory := path }
  Sh.assign "PWD" path
  Sh.mark "PWD" true false

/-- Goes to a directory. False if that is not possible. -/
def enterDirectory (path : String) (physical : Bool) : Sh Bool := do
  let s ← get
  let name := if physical || (s.directory.isEmpty && !path.startsWith "/") then none
    else some (logical s.directory path)
  let entered ← Sh.act (Act.call fun w =>
    match w.files.resolveDirectory w.cwd (name.getD path) with
    | .ok i => (true, w.modifyCurrent fun t => { t with cwd := i })
    | .error _ => (false, w))
  if entered then setDirectory name true
  return entered

/-- Whether a path says itself where it starts. -/
def isAnchored (path : String) : Bool :=
  path.startsWith "/" || path == "." || path == ".." || path.startsWith "./" || path.startsWith "../"

def isPhysical (operands : List String) : Sh (Bool × List String) := do
  let (given, operands) ← options [('L', false), ('P', false)] operands
  return (lastIs given 'P', operands)

def cd (operands : List String) : Sh Nat := do
  let (physical, operands) ← isPhysical operands
  let s ← get
  let (target, shows) := match operands with
    | [] => ((s.value? "HOME").getD "", false)
    | "-" :: _ => ((s.value? "OLDPWD").getD "", true)
    | path :: _ => (path, false)
  let show_ : Sh Nat := do
    Sh.print ((← get).directory ++ "\n")
    return 0
  let enter (path : String) (shows : Bool) : Sh Nat := do
    if ← enterDirectory path physical then if shows then show_ else return 0
    else Sh.fail ("can't cd to " ++ target)
  if isAnchored target then enter target shows
  else
    let name := if target.isEmpty then "." else target
    let found ← ((s.value? "CDPATH").getD "").splitOn ":" |>.findM? fun directory =>
      Sh.act (Act.files fun fs cwd =>
        match fs.resolveDirectory cwd (Lookup.join directory name) with
        | .ok _ => true
        | .error _ => false)
    match found with
    | some directory => enter (Lookup.join directory name) (shows || !directory.isEmpty)
    | none => enter target shows

def pwd (operands : List String) : Sh Nat := do
  let (physical, _) ← isPhysical operands
  let path ← if physical then systemDirectory else do pure (← get).directory
  Sh.print (path ++ "\n")
  return 0

/-! ## Permissions of new files -/

/-- The letters of three permission bits. -/
def bitLetters (bits : Nat) : String :=
  (if bits &&& 4 != 0 then "r" else "") ++ (if bits &&& 2 != 0 then "w" else "") ++
    (if bits &&& 1 != 0 then "x" else "")

def octalText (n : Nat) : String :=
  Number.Floating.repeated '0' (4 - (Nat.toDigits 8 n).length) ++ String.ofList (Nat.toDigits 8 n)

/-- Reads a mode in letters: what is allowed after it, given what is allowed before, and what could
not be read. -/
def symbolicMode (before after who : Nat) (cs : List Char) : Nat → Nat × List Char
  | 0 => (after, cs)
  | fuel + 1 =>
    let users := cs.takeWhile ("augo".toList.contains ·)
    let who := users.foldl
      (fun who c => who ||| match c with
        | 'a' => 0o111
        | 'u' => 0o100
        | 'g' => 0o010
        | _ => 0o001)
      who
    let who := if who == 0 then 0o111 else who
    match cs.drop users.length with
    | operator :: rest =>
      if !"=+-".toList.contains operator then (after, operator :: rest)
      else
        let rights := rest.takeWhile ("rwxugoXs".toList.contains ·)
        let bits := rights.foldl
          (fun bits c => bits ||| match c with
            | 'r' => 4
            | 'w' => 2
            | 'x' => 1
            | 'u' => before >>> 6
            | 'g' => before >>> 3
            | 'o' => before
            | 'X' => if before &&& 0o111 != 0 then 1 else 0
            | _ => 0)
          0
        let bits := (bits &&& 7) * who
        let after := match operator with
          | '-' => after &&& (0o777 ^^^ bits)
          | '=' => bits ||| (after &&& (0o777 ^^^ (who * 7)))
          | _ => after ||| bits
        match rest.drop rights.length with
        | ',' :: more => symbolicMode before after 0 more fuel
        | c :: more =>
          if "=+-".toList.contains c then symbolicMode before after who (c :: more) fuel
          else (after, c :: more)
        | [] => (after, [])
    | [] => (after, [])

def umask (operands : List String) : Sh Nat := do
  let (given, operands) ← options [('S', false)] operands
  let mask ← Sh.act (Act.look fun w => w.currentTask.mask)
  let setMask (mask : Nat) : Sh Unit :=
    Sh.act (Act.change fun w => w.modifyCurrent fun t => { t with mask })
  let allowed := 0o777 ^^^ mask
  match operands with
  | [] =>
    if given.isEmpty then Sh.print (octalText mask ++ "\n")
    else
      Sh.print ("u=" ++ bitLetters (allowed >>> 6) ++ ",g=" ++ bitLetters (allowed >>> 3) ++ ",o=" ++
        bitLetters allowed ++ "\n")
  | text :: _ =>
    let cs := text.toList
    if (cs.head?.map Char.isDigit).getD false then
      if cs.any fun c => c < '0' || '7' < c then Sh.fail ("Illegal number: " ++ text)
      setMask (cs.foldl (fun n c => 8 * n + (c.toNat - '0'.toNat)) 0 &&& 0o777)
    else
      let (after, left) := symbolicMode allowed allowed 0 cs (cs.length + 1)
      if !left.isEmpty then Sh.fail ("Illegal mode: " ++ text)
      setMask (0o777 ^^^ (after &&& 0o777))
  return 0

/-! ## Limits -/

/-- A limit as it is asked for and shown: by a letter, under a name and in a unit. -/
structure ShownLimit where
  letter : Char
  name : String
  unit : Nat
  resource : Resource

def limits : List ShownLimit := [
  ⟨'t', "time(seconds)", 1, .time⟩, ⟨'f', "file(blocks)", 512, .fileSize⟩,
  ⟨'d', "data(kbytes)", 1024, .data⟩, ⟨'s', "stack(kbytes)", 1024, .stack⟩,
  ⟨'c', "coredump(blocks)", 512, .coreSize⟩, ⟨'m', "memory(kbytes)", 1024, .memory⟩,
  ⟨'l', "locked memory(kbytes)", 1024, .lockedMemory⟩, ⟨'p', "process", 1, .tasks⟩,
  ⟨'n', "nofiles", 1, .descriptors⟩, ⟨'v', "vmemory(kbytes)", 1024, .addressSpace⟩,
  ⟨'w', "locks", 1, .locks⟩, ⟨'r', "rtprio", 1, .priority⟩]

/-- Limits are below this number, which stands for no limit. -/
def noLimit : Nat := 2 ^ 64 - 1

/-- A limit that is given as a number of units. -/
def limitOf (unit : Nat) (text : String) : Sh (Option Nat) := do
  if text == "unlimited" then return none
  if !text.toList.all Char.isDigit then Sh.fail "bad number"
  let n := (text.toList.foldl (fun n c => 10 * n + (c.toNat - 48)) 0) * unit % (noLimit + 1)
  return if n == noLimit then none else some n

/-- One of the two values of a limit in its unit. -/
def limitText (isHard : Bool) (unit : Nat) (q : Quota) : String :=
  match if isHard then q.hard else q.soft with
  | none => "unlimited"
  | some n => toString (n / unit)

def ulimit (operands : List String) : Sh Nat := do
  let letters := ['H', 'S', 'a'] ++ limits.map (·.letter)
  let (given, operands) ← options (letters.map (·, false)) operands
  let given := given.map (·.1)
  let which := (given.filter fun c => c == 'H' || c == 'S').getLast?
  let all := given.contains 'a'
  let letter := ((given.filter fun c => !(['H', 'S', 'a'].contains c)).getLast?).getD 'f'
  let quota (l : ShownLimit) : Sh Quota := Sh.act (Act.look (·.currentTask.quota l.resource))
  let text (l : ShownLimit) : Sh String :=
    return limitText (which == some 'H') l.unit (← quota l) ++ "\n"
  if 1 < operands.length || (all && !operands.isEmpty) then Sh.fail "too many arguments"
  match limits.find? (·.letter == letter), operands with
  | some l, [given] =>
    let value ← limitOf l.unit given
    let old ← quota l
    let new : Quota := {
      soft := if which == some 'H' then old.soft else value
      hard := if which == some 'S' then old.hard else value }
    match old.refusal? new with
    | some reason => Sh.fail ("error setting limit (" ++ reason ++ ")")
    | none => Sh.act (Act.change fun w => w.modifyCurrent fun t => { t with
        quotas := (l.resource, new) :: t.quotas.filter (·.1 != l.resource) })
  | some l, _ =>
    if all then
      for l in limits do
        Sh.print (l.name ++ Number.Floating.repeated ' ' (20 - l.name.length) ++ " " ++ (← text l))
    else Sh.print (← text l)
  | none, _ => pure ()
  return 0

end PipeShell.Host.Script.Builtin
