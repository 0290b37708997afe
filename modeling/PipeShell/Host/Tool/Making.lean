import PipeShell.Host.FileSystem.Facts
import PipeShell.Host.Tool.Amount
import PipeShell.Host.Tool.Mode
import PipeShell.Host.Tool.Options

/-! # Tools that make and remove names

They make directories, pipes and devices, remove names, and change sizes. -/

namespace PipeShell.Host.Tool

/-- The code of a tool that has made all its changes. -/
def codeOf (ok : Bool) : Nat := if ok then 0 else 1

/-- A path without the slashes at its end. -/
def withoutSlashes (path : String) : String :=
  let cs := path.toList.reverse.dropWhile (· == '/')
  if cs.isEmpty && !path.isEmpty then "/" else String.ofList cs.reverse

/-- An operand as a walk through directories shows it: one of the slashes at its end stays. Two slashes
alone stay, too. -/
def trimmed (path : String) : String :=
  let cs := path.toList.reverse
  if cs.length ≤ 2 || cs.head? != some '/' then path
  else String.ofList ('/' :: cs.dropWhile (· == '/')).reverse

/-- Does something for each operand; the code tells whether all went well. -/
def forOperands (names : List String) (act : String → Tool Bool) : Tool Nat := do
  let mut ok := true
  for name in names do
    if !(← act name) then ok := false
  return codeOf ok

/-- What the tool says when something could not be done. -/
def report (what : Message) (answer : Except Errno Unit) : Tool Bool := do
  match answer with
  | .ok () => return true
  | .error e =>
    warnOf what e
    return false

/-- Says that a security context plays no part. -/
def warnOfContext (kernel : String) : Tool Unit :=
  warn ("warning: ignoring --context; it requires an " ++ kernel ++ " kernel")

/-- Ends the tool if more than one directory is given for new names. -/
def checkDirectories (p : Parsed) : Tool Unit := do
  if 1 < (p.given.filter (·.1 == "t")).length then fail 1 "multiple target directories specified"

/-- The mode that an option gives. -/
def modeOf (p : Parsed) (mistake : String → Message) : Tool (Option Mode.Spec) :=
  (p.last? "m").mapM fun text => match Mode.ofString? text with
    | some spec => return spec
    | none => fail 1 (mistake text)

/-! ## `mkdir` and `mkfifo` -/

/-- The parts of a path that end with each of its names; the last one is the whole path. -/
def pathsTo (path : String) : List String :=
  let step (state : List String × List Char × Bool) (c : Char) : List String × List Char × Bool :=
    let (paths, before, inName) := state
    if c == '/' then (if inName then paths ++ [String.ofList before.reverse] else paths, c :: before, false)
    else (paths, c :: before, true)
  let (paths, _, inName) := path.toList.foldl step ([], [], false)
  if inName then paths ++ [path] else paths.dropLast ++ [path]

def newMode (spec : Option Mode.Spec) (isDirectory : Bool) (full : Nat) : Tool Nat := do
  let mask ← act (Act.look (·.currentTask.mask))
  match spec with
  | some spec => return Mode.apply spec isDirectory mask full
  | none => return Mode.without full mask

def makeOne (spec : Option Mode.Spec) (verbose : Bool) (path shown : String) : Tool (Except Errno Unit) := do
  let mode ← newMode spec true 0o777
  let answer ← changeFiles fun fs cwd => fs.makeDirectory cwd path mode
  if answer.isOk && verbose then print ((← get).name ++ ": created directory " ++ shellQuoted shown ++ "\n")
  return answer

/-- Makes the directories on the way, those that are missing. -/
def makeAll (spec : Option Mode.Spec) (verbose : Bool) : List String → Tool Bool
  | [] => return true
  | path :: rest => do
    let isDirectory ← files fun fs cwd => (fs.resolveDirectory cwd path).isOk
    if isDirectory then makeAll spec verbose rest
    else
      let answer ← makeOne (if rest.isEmpty then spec else none) verbose path path
      let answer : Except Errno Unit := match answer with
        | .error e => .error (if e = .fileExists && !rest.isEmpty then .notDirectory else e)
        | .ok () => .ok ()
      if ← report ("cannot create directory " ++ quote path) answer then makeAll spec verbose rest
      else return false

def mkdir (call : Call) : Tool Nat := do
  let p ← parse [.letter 'm' "mode" .required, .letter 'p' "parents" .none,
    .letter 'v' "verbose" .none, .letter 'Z' "" .none, ⟨"context", "context", .optional⟩]
    false 1 call.operands
  if (p.last? "context").isSome then warnOfContext "SELinux/SMACK-enabled"
  if p.operands.isEmpty then missingOperand 1
  let spec ← modeOf p fun text => "invalid mode " ++ quote text
  let verbose := p.has "v"
  forOperands p.operands fun path => do
    if p.has "p" && !path.isEmpty then makeAll spec verbose (pathsTo path)
    else report ("cannot create directory " ++ quote path) (← makeOne spec verbose path path)

def mkfifo (call : Call) : Tool Nat := do
  let p ← parse [.letter 'm' "mode" .required, .letter 'Z' "" .none,
    ⟨"context", "context", .optional⟩] false 1 call.operands
  if (p.last? "context").isSome then warnOfContext "SELinux/SMACK-enabled"
  if p.operands.isEmpty then missingOperand 1
  let mode ← newMode (← modeOf p fun _ => "invalid mode") false 0o666
  if 0o777 < mode then fail 1 "mode must specify only file permission bits"
  forOperands p.operands fun path => do
    let answer : Except Errno Unit ← act (Act.call fun w =>
      match w.files.makeNode w.cwd path (.fifo w.pipes.size) mode with
      | .ok files => (.ok (), { w with files, pipes := w.pipes.push .empty })
      | .error e => (.error e, w))
    report ("cannot create fifo " ++ shellQuoted path) answer

/-- A number of a device. -/
def deviceNumber (what text : String) : Tool Nat :=
  let cs := text.toList
  let isMinus := (cs.dropWhile Number.Floating.isSpace).head? == some '-'
  match Number.Integer.read 0 cs with
  | (n, false, []) =>
    if isMinus || cs.isEmpty || 2 ^ 32 ≤ n then refuse else return n.toNat
  | _ => refuse
where
  refuse : Tool Nat := fail 1 ("invalid " ++ what ++ " device number " ++ quote text)

/-- Reads the operands of a new node: its path, its kind and its numbers. -/
def nodeOperands (operands : List String) : Tool (String × String × List String) := do
  let kind := operands.getD 1 ""
  let count := if operands.isEmpty || kind.startsWith "p" then 2 else 4
  if operands.length < count then
    warn (match operands.getLast? with
      | none => "missing operand"
      | some last => "missing operand after " ++ quote last)
    if count == 4 && operands.length == 2 then
      note "Special files require major and minor device numbers.\n"
    tryHelp 1
  if count < operands.length then
    warn ("extra operand " ++ quote (operands.getD count ""))
    if count == 2 && operands.length == 4 then
      note "Fifos do not have major and minor device numbers.\n"
    tryHelp 1
  return (operands.headD "", kind, operands.drop 2)

def mknod (call : Call) : Tool Nat := do
  let p ← parse [.letter 'm' "mode" .required, .letter 'Z' "" .none,
    ⟨"context", "context", .optional⟩] false 1 call.operands
  if (p.last? "context").isSome then warnOfContext "SELinux/SMACK-enabled"
  let mode ← newMode (← modeOf p fun _ => "invalid mode") false 0o666
  if 0o777 < mode then fail 1 "mode must specify only file permission bits"
  let (path, kind, numbers) ← nodeOperands p.operands
  let letter := kind.toList.head?
  let answer : Except Errno Unit ←
    if letter == some 'p' then act (Act.call fun w =>
      match w.files.makeNode w.cwd path (.fifo w.pipes.size) mode with
      | .ok files => (.ok (), { w with files, pipes := w.pipes.push .empty })
      | .error e => (.error e, w))
    else if letter == some 'b' || letter == some 'c' || letter == some 'u' then
      let major ← deviceNumber "major" (numbers.getD 0 "")
      let minor ← deviceNumber "minor" (numbers.getD 1 "")
      let device := if letter == some 'b' then .absent true major minor else .ofNumbers major minor
      changeFiles fun fs cwd => fs.makeNode cwd path (.device device) mode
    else misuse 1 ("invalid device type " ++ quote kind)
  return codeOf (← report (quoteName path) answer)

/-! ## `rmdir`, `unlink` and `rm` -/

/-- Removes the directories above a path, from the inside to the outside. -/
def removeParents (verbose ignores : Bool) : List String → Tool Bool
  | [] => return true
  | path :: rest => do
    if verbose then print ((← get).name ++ ": removing directory, " ++ shellQuoted path ++ "\n")
    match ← changeFiles fun fs cwd => fs.removeDirectory cwd path with
    | .ok () => removeParents verbose ignores rest
    | .error e =>
      if ignores && e = .notEmpty then return true
      warnOf ("failed to remove directory " ++ shellQuoted path) e
      return false

def rmdir (call : Call) : Tool Nat := do
  let p ← parse [⟨"ignore", "ignore-fail-on-non-empty", .none⟩, .letter 'p' "parents" .none,
    .letter 'v' "verbose" .none] false 1 call.operands
  if p.operands.isEmpty then missingOperand 1
  let verbose := p.has "v"
  forOperands p.operands fun path => do
    if verbose then print ((← get).name ++ ": removing directory, " ++ shellQuoted path ++ "\n")
    match ← changeFiles fun fs cwd => fs.removeDirectory cwd path with
    | .ok () =>
      if p.has "p" then removeParents verbose (p.has "ignore") ((pathsTo path).dropLast.reverse) else return true
    | .error e =>
      if p.has "ignore" && e = .notEmpty then return true
      let isLink ← files fun fs cwd =>
        let leads := match fs.resolve cwd path true with
          | .ok i => fs.isDirectory i
          | .error why => why != Errno.notDirectory
        let names := match fs.resolve cwd (withoutSlashes path) false with
          | .ok i => (fs.body? i matches some (.link _))
          | .error _ => false
        e == Errno.notDirectory && path.endsWith "/" && leads && names
      if isLink then
        warn ("failed to remove " ++ shellQuoted path ++ ": Symbolic link not followed")
        return false
      report ("failed to remove " ++ shellQuoted path) (.error e)

def unlink (call : Call) : Tool Nat := do
  let p ← parse [] false 1 call.operands
  match p.operands with
  | [] => missingOperand 1
  | _ :: extra :: _ => extraOperand 1 extra
  | [path] =>
    let answer ← changeFiles fun fs cwd => fs.removeFile cwd path
    return codeOf (← report ("cannot unlink " ++ shellQuoted path) answer)

/-- Says that the root is not touched. -/
def warnOfRoot (path : String) : Tool Unit := do
  let same : Message := if path == "/" then "" else " (same as " ++ shellQuoted "/" ++ ")"
  warn ("it is dangerous to operate recursively on " ++ shellQuoted path ++ same)
  warn "use --no-preserve-root to override this failsafe"

namespace Removal

structure Wanted where
  recursive : Bool
  /-- Whether empty directories are removed like files. -/
  directories : Bool
  forces : Bool
  asks : Bool
  verbose : Bool
  keepsRoot : Bool

/-- What a node is called in questions. -/
def kindOf (fs : FileSystem) (i : Inode) : String := ((fs.node? i).map Node.kind).getD "regular file"

/-- Whether the next line of the input begins with yes. -/
def agrees (input : LineInput) : Tool (Bool × LineInput) := do
  let (line, input) ← input.next 10 Act.manyReads
  let first := line.bind fun bytes => bytes.toList.head?
  return (first == some 121 || first == some 89, input)

/-- Puts a question, if questions are wanted. -/
def confirm (w : Wanted) (question : Message) (input : LineInput) : Tool (Bool × LineInput) := do
  if !w.asks then return (true, input)
  flush
  note ((← get).name ++ ": " ++ question ++ "? ")
  agrees input

/-- Removes what a path names, and all below it. The number bounds how deep that is. -/
def remove (w : Wanted) (path : String) (input : LineInput) : Nat → Tool (Bool × LineInput)
  | 0 => return (false, input)
  | depth + 1 => do
    let cannot (e : Errno) : Tool Bool := do
      if w.forces && (e = .notFound || e = .notDirectory || e = .invalidArgument) then return true
      report ("cannot remove " ++ shellQuoted path) (.error e)
    let finish (answer : Except Errno Unit) : Tool Bool := do
      match answer with
      | .ok () => return true
      | .error e => cannot e
    match ← files fun fs cwd => (fs.resolve cwd path false).map fun i =>
        (i, fs.isDirectory i, kindOf fs i, fs.entries i) with
    | .error _ =>
      match ← changeFiles fun fs cwd => fs.removeFile cwd path with
      | .ok () => return (true, input)
      | .error e => return (← cannot e, input)
    | .ok (_, isDirectory, kind, entries) =>
      if isDirectory && !w.recursive && !(w.directories && entries.isEmpty) then
        return (← cannot (if w.directories then .notEmpty else .isDirectory), input)
      if isDirectory then
        let (goesOn, input) ← if entries.isEmpty then pure (true, input)
          else confirm w ("descend into directory " ++ shellQuoted path) input
        if !goesOn then return (true, input)
        let below := fun (state : Bool × LineInput) (entry : String × Inode) => do
          let (ok, input) := state
          let inner := (if path.endsWith "/" then path else path ++ "/") ++ entry.1
          let (removed, input) ← remove w inner input depth
          return (ok && removed, input)
        let (ok, input) ← entries.foldlM below (true, input)
        if !ok then return (false, input)
        let (agreed, input) ← confirm w ("remove directory " ++ shellQuoted path) input
        if !agreed then return (true, input)
        let answer ← changeFiles fun fs cwd => fs.removeDirectory cwd path
        if answer.isOk && w.verbose then print ("removed directory " ++ shellQuoted path ++ "\n")
        return (← finish answer, input)
      else
        let (agreed, input) ← confirm w ("remove " ++ kind ++ " " ++ shellQuoted path) input
        if !agreed then return (true, input)
        let answer ← changeFiles fun fs cwd => fs.removeFile cwd path
        if answer.isOk && w.verbose then print ("removed " ++ shellQuoted path ++ "\n")
        return (← finish answer, input)

/-- More levels than a path can have. -/
def maxDepth : Nat := 5000

/-- The last name of a path, however many slashes follow. -/
def lastName (path : String) : String := ((FileSystem.namesOf path).getLast?).getD ""

/-- Removes what an operand names, if that may be removed. -/
def removeOperand (w : Wanted) (path : String) (input : LineInput) : Tool (Bool × LineInput) := do
  let last := lastName path
  let isRoot ← files fun fs cwd => match fs.resolve cwd path false with
    | .ok i => i == FileSystem.root
    | .error _ => false
  if w.recursive && isRoot && w.keepsRoot then
    warnOfRoot path
    return (false, input)
  if w.recursive && (last == "." || last == "..") then
    warn ("refusing to remove " ++ shellQuoted "." ++ " or " ++ shellQuoted ".." ++ " directory: skipping " ++ shellQuoted path)
    return (false, input)
  remove w path input maxDepth

/-- When somebody is asked: before nothing, before much is removed, or before each file. -/
inductive Asking where
  | never | once | always
  deriving DecidableEq

def askingWords : List (String × Asking) := [("never", .never), ("no", .never), ("none", .never),
  ("once", .once), ("always", .always), ("yes", .always)]

/-- Takes from an option when somebody is asked, and whether what is not there is passed over. -/
def addAsking (state : Asking × Bool) (given : Given) : Tool (Asking × Bool) := do
  let (_, forces) := state
  match given with
  | ("f", _) => return (.never, true)
  | ("i", _) => return (.always, false)
  | ("I", _) => return (.once, false)
  | ("interactive", word) =>
    let asking ← word.elim (pure .always) (choose "--interactive" askingWords)
    return (asking, forces && asking == .never)
  | ("preserve-root", some word) =>
    if word != "all" then fail 1 ("unrecognized --preserve-root argument: " ++ shellQuoted word)
    return state
  | _ => return state

end Removal

open Removal in
def rm (call : Call) : Tool Nat := do
  let (p, asking, forces) ← parseInto [.letter 'd' "dir" .none, .letter 'f' "force" .none, .letter 'i' "" .none,
    .letter 'I' "" .none, ⟨"interactive", "interactive", .optional⟩, .letter 'r' "recursive" .none,
    .letter 'R' "" .none, .letter 'v' "verbose" .none, ⟨"one", "one-file-system", .none⟩,
    ⟨"preserve-root", "preserve-root", .optional⟩, ⟨"no-preserve-root", "no-preserve-root", .none⟩]
    false 1 call.operands (.never, false) addAsking
  let w : Wanted := {
    recursive := p.hasAny ["r", "R"], directories := p.has "d", verbose := p.has "v"
    forces, asks := asking == .always
    keepsRoot := p.lastOf? ["preserve-root", "no-preserve-root"] != some "no-preserve-root" }
  if p.operands.isEmpty then
    if w.forces then return 0 else missingOperand 1
  let mut input : LineInput := { fd := 0 }
  if asking == .once && (w.recursive || 3 < p.operands.length) then
    let n := p.operands.length
    let counted := toString n ++ (if n == 1 then " argument" else " arguments") ++
      (if w.recursive then " recursively" else "")
    let (agreed, after) ← confirm { w with asks := true } ("remove " ++ counted) input
    input := after
    if !agreed then return 0
  let mut ok := true
  for path in p.operands do
    let (removed, after) ← removeOperand w (trimmed path) input
    input := after
    if !removed then ok := false
  return codeOf ok

/-! ## `truncate` -/

namespace Sizing

/-- How a size is given: as it is, or as something else than it is. -/
inductive Relation where
  | change | most | least | multipleBelow | multipleAbove
  deriving DecidableEq

structure Wanted where
  relation : Option Relation := none
  amount : Option Int := none

def relations : List (Char × Relation) :=
  [('<', .most), ('>', .least), ('/', .multipleBelow), ('%', .multipleAbove)]

/-- The size of a file that has an old size. -/
def sizeFrom (relation : Option Relation) (amount old : Int) : Nat :=
  (match relation with
    | none => amount
    | some .change => old + amount
    | some .most => min old amount
    | some .least => max old amount
    | some .multipleBelow => old / amount * amount
    | some .multipleAbove => (old + amount - 1) / amount * amount).toNat

/-- Takes the size from an option. How an earlier one was given stays if the new one does not say. -/
def add (w : Wanted) (given : Given) : Tool Wanted := do
  if given.1 != "s" then return w
  let cs := ((given.2.getD "").toList).dropWhile Number.Floating.isSpace
  let marked := cs.head?.bind fun c => relations.lookup c
  let cs := if marked.isSome then (cs.drop 1).dropWhile Number.Floating.isSpace else cs
  let isChange := cs.head? == some '+' || cs.head? == some '-'
  let relation := marked.or w.relation
  if isChange && relation.isSome then misuse 1 "multiple relative modifiers specified"
  let relation := if isChange then some .change else relation
  let amount ← amountWithin true "EgGkKmMPtTYZ0" (-(2 ^ 63)) (2 ^ 63 - 1) "Invalid number" (String.ofList cs)
  if amount == 0 && (relation == some .multipleBelow || relation == some .multipleAbove) then
    fail 1 "division by zero"
  return { relation, amount := some amount }

/-- The size of the blocks that a size may be given in. -/
def blockSize : Int := 4096

/-- The size that a file is to have. -/
def sizeFor (w : Wanted) (inBlocks : Bool) (reference : Option Nat) (path : String) (old : Nat) : Tool (Option Nat) := do
  match w.amount with
  | none => return some (reference.getD old)
  | some amount =>
    let size := if inBlocks then amount * blockSize else amount
    if size < -(2 ^ 63) || 2 ^ 63 ≤ size then
      warn (s!"overflow in {amount} * {blockSize} byte blocks for file " ++ shellQuoted path)
      return none
    let size := sizeFrom w.relation size (reference.getD old)
    if 2 ^ 63 ≤ size then
      warn ("overflow extending size of file " ++ shellQuoted path)
      return none
    return some size

/-- The most bytes that a file may have. -/
def largest : Nat := 2 ^ 44 - 4096

/-- Gives an open file a size. -/
def resize (fd size : Nat) : Tool (Except Errno Unit) := do
  if largest < size then return .error ⟨27⟩
  match ← regularAt? fd with
  | none => return .error .invalidArgument
  | some (i, bytes, _) =>
    let most ← act (Act.look (·.spaceFrom 0))
    if (most.any fun n => n < size) && bytes.size < size then act (Act.call World.refuseGrowth)
    else
      let content := if size ≤ bytes.size then bytes.extract 0 size else World.overwrite bytes size .empty
      changeFiles fun fs _ => .ok (fs.setBody i (.file content))

end Sizing

open Sizing in
def truncate (call : Call) : Tool Nat := do
  let (p, w) ← parseInto [.letter 'c' "no-create" .none, .letter 'o' "io-blocks" .none,
    .letter 'r' "reference" .required, .letter 's' "size" .required] false 1 call.operands {} Sizing.add
  if w.amount.isNone && !p.has "r" then
    misuse 1 ("you must specify either " ++ quote "--size" ++ " or " ++ quote "--reference")
  if p.has "r" && w.amount.isSome && w.relation.isNone then
    misuse 1 ("you must specify a relative " ++ quote "--size" ++ " with " ++ quote "--reference")
  if p.has "o" && w.amount.isNone then
    misuse 1 (quote "--io-blocks" ++ " was specified but " ++ quote "--size" ++ " was not")
  if p.operands.isEmpty then misuse 1 "missing file operand"
  let reference : Option Nat ← (p.last? "r").mapM fun path => do
    match ← files fun fs cwd => (fs.resolve cwd path true).map fs.fileContent? with
    | .ok content => return (content.map (·.size)).getD 0
    | .error e => fail 1 ("cannot stat " ++ shellQuoted path ++ ": " ++ e.message)
  forOperands p.operands fun path => do
    let create := if p.has "c" then none else some 0o666
    match ← act (Act.openFile path { write := true, create }) with
    | .error e =>
      if p.has "c" && e = .notFound then return true
      report ("cannot open " ++ shellQuoted path ++ " for writing") (.error e)
    | .ok fd =>
      let old := ((← regularAt? fd).map (·.2.1.size)).getD 0
      let ok ← match ← sizeFor w (p.has "o") reference path old with
        | none => pure false
        | some size =>
          report ("failed to truncate " ++ shellQuoted path ++ " at " ++ toString size ++ " bytes") (← resize fd size)
      act (Act.close fd)
      return ok

/-! ## Names of copies -/

/-- A name in a directory. -/
def inDirectory (directory name : String) : String :=
  if directory.endsWith "/" then directory ++ name else directory ++ "/" ++ name

/-- The last name of a path, for a copy of it in a directory. -/
def nameFor (path : String) : String :=
  match (FileSystem.namesOf path).getLast? with
  | some name => name
  | none => if path.isEmpty then "" else "/"

end PipeShell.Host.Tool
