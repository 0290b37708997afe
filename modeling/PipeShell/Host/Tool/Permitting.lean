import PipeShell.Host.Tool.Making

/-! # The tool `chmod`

It changes the permission bits of files, and of all below a directory. -/

namespace PipeShell.Host.Tool

namespace Permitting

/-- Which changes are told. -/
inductive Verbosity where
  | silent | changes | all
  deriving DecidableEq

structure Wanted where
  spec : Mode.Spec
  recursive : Bool
  verbosity : Verbosity
  quiet : Bool
  keepsRoot : Bool
  /-- Whether it is told if the mask has kept bits from being taken away. -/
  diagnoses : Bool

/-- What a mode is shown as: in base eight and in letters. -/
def shown (mode : Nat) : String :=
  let digits := String.ofList (Nat.toDigits 8 mode)
  String.ofList (List.replicate (4 - digits.length) '0') ++ digits ++ " (" ++ modeText mode ++ ")"

/-- Tells a change. -/
def describe (w : Wanted) (path : String) (old new : Nat) : Tool Unit := do
  if old != new && w.verbosity != .silent then
    print ("mode of " ++ shellQuoted path ++ " changed from " ++ shown old ++ " to " ++ shown new ++ "\n")
  else if w.verbosity = .all then
    print ("mode of " ++ shellQuoted path ++ " retained as " ++ shown new ++ "\n")

/-- Changes the bits of one file. -/
def change (w : Wanted) (path : String) (i : Inode) (isDirectory : Bool) (old : Nat) : Tool Bool := do
  let mask ← act (Act.look (·.currentTask.mask))
  let new := Mode.apply w.spec isDirectory mask old
  let _ ← changeFiles fun fs _ => .ok (fs.setMode i new)
  describe w path old new
  let expected := Mode.apply w.spec isDirectory 0 old
  if w.diagnoses && Mode.without new expected != 0 then
    warn (quoteName path ++ ": new permissions are " ++ modeText new ++ ", not " ++ modeText expected)
    return false
  return true

/-- Says why a path leads to nothing that could be changed. -/
def refuse (w : Wanted) (path : String) (e : Errno) : Tool Bool := do
  if !w.quiet then
    let isDangling ← files fun fs cwd => (fs.resolve cwd path false).isOk
    if isDangling then warn ("cannot operate on dangling symlink " ++ shellQuoted path)
    else warnOf ("cannot access " ++ shellQuoted path) e
  if w.verbosity = .all then print (shellQuoted path ++ " could not be accessed\n")
  return false

/-- Changes the bits of what a path names, and of all below it. Links below it are left alone. The
number bounds how deep that is. -/
def changeAll (w : Wanted) (path : String) : Nat → Tool Bool
  | 0 => return false
  | depth + 1 => do
    match ← files fun fs cwd => (fs.resolve cwd path true).map fun i =>
        (i, fs.isDirectory i, ((fs.node? i).map (·.mode)).getD 0) with
    | .error e => refuse w path e
    | .ok (i, isDirectory, old) =>
      if w.recursive && w.keepsRoot && i == FileSystem.root then
        warnOfRoot path
        return false
      let ok ← change w path i isDirectory old
      if !w.recursive || !isDirectory then return ok
      let entries ← files fun fs _ => fs.entries i
      entries.foldlM
        (fun ok (name, below) => do
          let inner := inDirectory path name
          let isLink ← files fun fs _ => match fs.body? below with
            | some (.link _) => true
            | _ => false
          if isLink then
            if w.verbosity = .all then
              print ("neither symbolic link " ++ shellQuoted inner ++ " nor referent has been changed\n")
            return ok
          return (← changeAll w inner depth) && ok)
        ok

/-! ## Options -/

/-- The option that stands for a word that is a mode. -/
def modeWord : String := "-mode"

def switches : List Switch := [
  .letter 'c' "changes" .none, .letter 'f' "silent" .none, ⟨"f", "quiet", .none⟩,
  .letter 'R' "recursive" .none, .letter 'v' "verbose" .none, ⟨"reference", "reference", .required⟩,
  ⟨"preserve-root", "preserve-root", .none⟩, ⟨"no-preserve-root", "no-preserve-root", .none⟩,
  ⟨"mode", modeWord, .required⟩]

/-- Whether a word that looks like an option is a mode: the first letter that is no option is one that
a mode begins with. -/
def isMode (word : String) : Bool :=
  match word.toList with
  | '-' :: cs => ((cs.dropWhile ("Rcfv".toList.contains ·)).head?).any ("rwxXstugoa,+=01234567".toList.contains ·)
  | _ => false

/-- The words with each mode that looks like an option as the argument of one. -/
def marked : List String → List String
  | [] => []
  | [word] => [if isMode word then "--" ++ modeWord ++ "=" ++ word else word]
  | word :: next :: rest =>
    if word == "--" then word :: next :: rest
    else if isMode word then ("--" ++ modeWord ++ "=" ++ word) :: marked (next :: rest)
    else if takesNext switches word then word :: next :: marked rest
    else word :: marked (next :: rest)

/-- The bits that a file has, as a mode. -/
def modeOfFile (path : String) : Tool Mode.Spec := do
  match ← files fun fs cwd => (fs.resolve cwd path true).map fun i => fs.node? i with
  | .ok n =>
    return [{ who := 0o7777, operator := '=', bits := (n.map (·.mode)).getD 0, exact := true, whole := true }]
  | .error e => fail 1 ("failed to get attributes of " ++ shellQuoted path ++ ": " ++ e.message)

end Permitting

open Permitting in
def chmod (call : Call) : Tool Nat := do
  let p ← parse switches false 1 (marked call.operands)
  let given := p.given.filterMap fun (key, text) => if key == "mode" then text else none
  let reference := p.last? "reference"
  if reference.isSome && !given.isEmpty then misuse 1 "cannot combine mode and --reference options"
  let (mode, paths) ← match p.operands, reference.isSome || !given.isEmpty with
    | [], _ => missingOperand 1
    | paths, true => pure (",".intercalate given, paths)
    | [mode], false => missingAfter 1 mode
    | mode :: paths, false => pure (mode, paths)
  let spec ← match reference, Mode.ofString? mode with
    | some path, _ => modeOfFile path
    | none, some spec => pure spec
    | none, none => misuse 1 ("invalid mode: " ++ quote mode)
  let w : Wanted := {
    spec, recursive := p.has "R", quiet := p.has "f", diagnoses := !given.isEmpty
    verbosity := match p.lastOf? ["c", "v"] with
      | some "c" => .changes
      | some _ => .all
      | none => .silent
    keepsRoot := p.lastOf? ["preserve-root", "no-preserve-root"] == some "preserve-root" }
  forOperands paths fun path => changeAll w (trimmed path) Removal.maxDepth

end PipeShell.Host.Tool
