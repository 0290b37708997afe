import PipeShell.Host.Tool.Backup
import PipeShell.Host.Tool.Names

/-! # Making links

A link is a second name for a node, or a name that stands for a path. -/

namespace PipeShell.Host.Tool

def link (call : Call) : Tool Nat := do
  let p ← parse [] false 1 call.operands
  match p.operands with
  | [] => missingOperand 1
  | [path] => missingAfter 1 path
  | _ :: _ :: extra :: _ => extraOperand 1 extra
  | [old, new] =>
    let answer ← changeFiles fun fs cwd => fs.addName cwd old new false
    return codeOf (← report ("cannot create link " ++ shellQuoted new ++ " to " ++ shellQuoted old) answer)

namespace Linking

structure Wanted where
  symbolic : Bool
  /-- Whether the text of a link is made relative to where the link is. -/
  relative : Bool
  forces : Bool
  verbose : Bool
  /-- Whether a link that is linked to is followed. -/
  follows : Bool
  asks : Bool
  backup : Backup
  /-- Whether second names of directories are tried. -/
  triesDirectories : Bool := false
  /-- Whether names that have been made are not to be replaced. -/
  guards : Bool := false

/-- Names that have been made, with what they name. -/
abbrev Made := List (String × Inode)

/-- Whether removing one name would take away the node that another stands for. -/
def removes (fs : FileSystem) (cwd : Inode) (w : Wanted) (target path : String) : Bool :=
  match fs.resolve cwd target (w.symbolic || w.follows), fs.resolve cwd path false with
  | .ok i, .ok j =>
    let place (path : String) : Option (Inode × FileSystem.Last) :=
      (fs.placeOf cwd path).toOption.map fun p => (p.directory, p.last)
    i == j && (fs.linkCount i == 1 || place target == place path)
  | _, _ => false

/-- What becomes of a link when its name is taken. -/
inductive Way where
  /-- It is done or given up. -/
  | finished (ok : Bool)
  /-- It takes the place of what is there, which may be kept under a name. -/
  | on (kept : Option String)

/-- Keeps what has the name of a link under another one. -/
def setAside (w : Wanted) (path : String) : Tool Way := do
  if !w.backup.isMade then return .on none
  match ← w.backup.make path with
  | .ok name => return .on (some name)
  | .error e =>
    if e = .notFound then return .on none
    warnOf ("cannot backup " ++ shellQuoted path) e
    return .finished false

/-- Looks at what has the name of a link that is to be made all the same. -/
def clear (w : Wanted) (made : Made) (target path : String) : Tool Way := do
  match ← files fun fs cwd => (fs.resolve cwd path false).map fun i => (i, fs.isDirectory i) with
  | .error e =>
    if e = .notFound then return .on none
    warnOf ("failed to access " ++ shellQuoted path) e
    return .finished false
  | .ok (_, true) =>
    warn (quoteName path ++ ": cannot overwrite directory")
    return .finished false
  | .ok (i, false) =>
    if w.guards && made.contains (path, i) then
      warn ("will not overwrite just-created " ++ shellQuoted path ++ " with " ++ shellQuoted target)
      return .finished false
    let isCareful := !(w.backup.isMade && w.symbolic)
    if isCareful && (← files fun fs cwd => removes fs cwd w target path) then
      warn (shellQuoted target ++ " and " ++ shellQuoted path ++ " are the same file")
      return .finished false
    if !w.asks then return ← setAside w path
    flush
    note ((← get).name ++ ": replace " ++ shellQuoted path ++ "? ")
    if (← Removal.agrees { fd := 0 }).1 then setAside w path else return .finished true

/-- The text of a link that is to lead to a target from where it is. -/
def relativeText (target path : String) : Tool String := do
  let above := String.ofList ((withoutSlashes path).toList.reverse.dropWhile (· != '/')).reverse
  let directory := if above.isEmpty then "." else above
  let one ← Naming.canonicalName .anything true directory
  let other ← Naming.canonicalName .anything true target
  return match one, other with
    | .ok base, .ok names => Naming.relative base names
    | _, _ => target

/-- What is said of a link that could not be made. -/
def failure (w : Wanted) (target path : String) (e : Errno) : Message :=
  let kind := if w.symbolic then "symbolic" else "hard"
  let tail : Message :=
    if w.symbolic then (if target.isEmpty || e = .nameTooLong then " -> " ++ shellQuoted target else "")
    else if e = .fileExists || e = ⟨28⟩ then "" else " => " ++ shellQuoted target
  "failed to create " ++ kind ++ " link " ++ shellQuoted path ++ tail

/-- Makes a link, and tells what has been made since. -/
def make (w : Wanted) (made : Made) (target path : String) : Tool (Bool × Made) := do
  let attempt (target : String) := changeFiles fun fs cwd =>
    if w.symbolic then fs.makeLink cwd target path else fs.addName cwd target path w.follows
  let first : Except Errno Unit ←
    if w.symbolic && w.relative then pure (.error .fileExists) else attempt target
  let done (target : String) (kept : Option String) : Tool (Bool × Made) := do
    let here : Message := match kept with
      | some name => shellQuoted name ++ " ~ "
      | none => ""
    if w.verbose then
      print (here ++ shellQuoted path ++ (if w.symbolic then " -> " else " => ") ++ shellQuoted target ++ "\n")
    let i ← files fun fs cwd => (fs.resolve cwd path false).toOption
    return (true, (i.map fun i => (path, i)).toList ++ made)
  if first.isOk then return ← done target none
  if !w.symbolic then
    match ← files fun fs cwd => (fs.resolve cwd target w.follows).map fs.isDirectory with
    | .error e =>
      warnOf ("failed to access " ++ shellQuoted target) e
      return (false, made)
    | .ok isDirectory =>
      if isDirectory && !w.triesDirectories then
        warn (quoteName target ++ ": hard link not allowed for directory")
        return (false, made)
  let target ← if w.relative then relativeText target path else pure target
  let replaces := w.forces || w.asks || w.backup.isMade
  let way ← if replaces && (first matches .error ⟨17⟩) then clear w made target path else pure (.on none)
  match way with
  | .finished ok => return (ok, made)
  | .on kept =>
    let isTried := !(w.symbolic && w.relative) && kept.isNone
    let mut answer ← if isTried then pure first else attempt target
    if replaces && (answer matches .error ⟨17⟩) then
      let _ ← changeFiles fun fs cwd => fs.removeFile cwd path
      answer ← attempt target
    match answer with
    | .ok () => done target kept
    | .error e =>
      warnOf (failure w target path e) e
      if let some name := kept then
        if let .error e ← changeFiles fun fs cwd => fs.rename cwd name path then
          warnOf ("cannot un-backup " ++ shellQuoted path) e
      return (false, made)

/-- Makes links in a directory, under the last names of their targets. -/
def intoDirectory (w : Wanted) (directory : String) (targets : List String) : Tool Nat := do
  let w := { w with
    guards := 1 < targets.length && w.forces && !w.symbolic && w.backup.kind != .numbered }
  let (ok, _) ← targets.foldlM
    (fun (ok, made) target => do
      let (good, made) ← make w made target (inDirectory directory (nameFor target))
      return (ok && good, made))
    ((true, []) : Bool × Made)
  return codeOf ok

end Linking

open Linking in
def ln (call : Call) : Tool Nat := do
  let p ← parse (Backup.switches ++ [.letter 'd' "directory" .none,
    .letter 'F' "" .none, .letter 'f' "force" .none, .letter 'i' "interactive" .none,
    .letter 'L' "logical" .none, .letter 'n' "no-dereference" .none, .letter 'P' "physical" .none,
    .letter 'r' "relative" .none, .letter 's' "symbolic" .none,
    .letter 't' "target-directory" .required, .letter 'T' "no-target-directory" .none,
    .letter 'v' "verbose" .none]) false 1 call.operands
  checkDirectories p
  if let some directory := p.last? "t" then
    match ← files fun fs cwd => (fs.resolve cwd directory true).map fs.isDirectory with
    | .error e => fail 1 ("failed to access " ++ shellQuoted directory ++ ": " ++ e.message)
    | .ok isDirectory =>
      if !isDirectory then fail 1 ("target " ++ shellQuoted directory ++ " is not a directory")
  if p.operands.isEmpty then misuse 1 "missing file operand"
  if p.has "r" && !p.has "s" then fail 1 "cannot do --relative without --symbolic"
  if p.has "T" then
    if p.has "t" then fail 1 "cannot combine --target-directory and --no-target-directory"
    match p.operands with
    | [target] => misuse 1 ("missing destination file operand after " ++ shellQuoted target)
    | _ :: _ :: extra :: _ => misuse 1 ("extra operand " ++ shellQuoted extra)
    | _ => pure ()
  let one (backup : Backup) : Wanted := {
    symbolic := p.has "s", relative := p.has "r", verbose := p.has "v"
    follows := p.lastOf? ["L", "P"] == some "L"
    forces := p.lastOf? ["f", "i"] == some "f", asks := p.lastOf? ["f", "i"] == some "i", backup
    triesDirectories := p.hasAny ["d", "F"] }
  let isDirectory (path : String) : Tool (Except Errno Bool) := files fun fs cwd =>
    match fs.resolve cwd path (!p.has "n") with
    | .ok i => .ok (fs.isDirectory i)
    | .error e => .error e
  let into (directory : String) (targets : List String) : Tool Nat := do
    intoDirectory (one (← Backup.ofOptions p call.environment)) directory targets
  let alone (target path : String) : Tool Nat := do
    let (ok, _) ← make (one (← Backup.ofOptions p call.environment)) [] target path
    return codeOf ok
  match p.operands, p.last? "t" with
  | targets, some directory => into directory targets
  | [target], none => into "." [target]
  | operands, none =>
    if p.has "T" then return ← alone (operands.getD 0 "") (operands.getD 1 "")
    let directory := operands.getLast?.getD ""
    match ← isDirectory directory with
    | .ok true => into directory operands.dropLast
    | found =>
      match operands with
      | [target, path] => alone target path
      | _ =>
        let why : Errno := match found with
          | .error e => e
          | .ok _ => .notDirectory
        fail 1 ("target " ++ shellQuoted directory ++ ": " ++ why.message)

end PipeShell.Host.Tool
