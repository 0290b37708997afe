import PipeShell.Host.Tool.Owning
import PipeShell.Host.Tool.Starting

/-! # Installing

Copies of files, or new directories, that are given a mode and perhaps an owner of their own. What is
in the way of a copy is removed first. -/

namespace PipeShell.Host.Tool
namespace Installing

open Copying (Following Work copyOperand inspect runAll)

structure Wanted where
  copying : Copying.Wanted
  mode : Nat
  directoryMode : Nat
  /-- The bits of a directory that its mode says something about. -/
  directoryBits : Nat
  owner : Option Nat
  group : Option Nat
  /-- Whether a copy that is there already is left alone. -/
  compares : Bool
  /-- Whether directories on the way to a copy are made. -/
  makesParents : Bool
  /-- The program that removes symbols from a copy. -/
  strips : Option String

/-! ## Directories -/

def announce (w : Wanted) (path : String) : Tool Unit := do
  if w.copying.verbose then print ((← get).name ++ ": creating directory " ++ shellQuoted path ++ "\n")

/-- The mode of directories that are made on the way. -/
def usualMode : Nat := 0o755

/-- Makes the directories in front of the last name of a path, those that are missing. If one cannot be
made it is the answer, with the reason. -/
def makeAncestors (w : Wanted) (path : String) : Tool (Option (String × Errno)) := do
  for ancestor in (pathsTo path).dropLast do
    let last := Removal.lastName ancestor
    let made : Except Errno Unit ← if last == "." || last == ".." then pure (.ok ())
      else changeFiles fun fs cwd => fs.makeDirectory cwd ancestor usualMode
    if made.isOk && last != "." && last != ".." then announce w ancestor
    match ← files fun fs cwd => fs.resolveDirectory cwd ancestor, made with
    | .ok _, _ => pure ()
    | .error e, .error why => return some (ancestor, if e = .notFound then why else e)
    | .error e, .ok () => return some (ancestor, e)
  return none

/-- Makes a directory, unless there is one, and gives it its mode and owner. -/
def makeDirectory (w : Wanted) (path : String) : Tool Bool := do
  let cannot (path : String) (e : Errno) : Tool Bool :=
    report ("cannot create directory " ++ quote path) (.error e)
  if let some (ancestor, e) ← makeAncestors w path then return ← cannot ancestor e
  let made ← changeFiles fun fs cwd => fs.makeDirectory cwd path (w.directoryMode &&& 0o777)
  if made.isOk then announce w path
  match ← inspect path true, made with
  | .ok there, _ =>
    if there.isDirectory then
      let mode := w.directoryMode ||| Mode.without there.node.mode w.directoryBits
      let _ ← changeFiles fun fs _ => .ok ((fs.setOwner there.inode w.owner w.group).setMode there.inode mode)
      return true
    else cannot path (if let .error e := made then e else .notDirectory)
  | .error e, .ok () => cannot path e
  | .error _, .error e => cannot path e

/-! ## Files -/

/-- Whether bits are set that are no permissions. -/
def isSpecial (mode : Nat) : Bool := mode &&& 0o7000 != 0

/-- Whether a copy that is there differs from a new one. -/
def isStale (w : Wanted) (source target : String) : Tool Bool := do
  if isSpecial w.mode then return true
  match ← inspect source false, ← inspect target false with
  | .ok from_, .ok onto =>
    if !from_.isRegular || !onto.isRegular || isSpecial from_.node.mode || isSpecial onto.node.mode then
      return true
    let n := onto.node
    if n.mode != w.mode || n.owner != w.owner.getD 0 || n.group != w.group.getD 0 then return true
    files fun fs _ => from_.inode != onto.inode && match fs.fileContent? from_.inode, fs.fileContent? onto.inode with
      | some a, some b => a != b
      | _, _ => true
  | _, _ => return true

/-- Runs a program that removes symbols. -/
def strip (call : Call) (program path : String) : Tool Bool := do
  flush
  let argument := if path.startsWith "-" then "./" ++ path else path
  let pid ← act (Act.fork (Tool.run call.name call.environment do
    let e ← Starting.become call.exec [program, argument] call.environment
    fail 1 ("cannot run " ++ shellQuoted program ++ ": " ++ e.message)))
  match ← act (Act.wait (some pid) false) with
  | .child _ (.exited code) =>
    if code.toNat == 0 then return true
    warn "strip process terminated abnormally"
    return false
  | _ =>
    warn "strip process terminated abnormally"
    return false

/-- Copies a file, and gives the copy its mode and owner. -/
def installFile (call : Call) (w : Wanted) (source target : String) : Work Bool := do
  if w.copying.keepsTime then
    if let .error e ← inspect source true then
      return ← report ("cannot stat " ++ shellQuoted source) (.error e)
  let stale ← if w.compares then isStale w source target else pure true
  if stale then
    if !(← copyOperand w.copying false none source target) then return false
  if let some program := w.strips then
    if !(← strip call program target) then
      if let .error e ← changeFiles fun fs cwd => fs.removeFile cwd target then
        fail 1 ("cannot unlink " ++ shellQuoted target ++ ": " ++ e.message)
      return false
  if w.owner.isSome || w.group.isSome then
    let given ← changeFiles fun fs cwd => (fs.resolve cwd target false).map fun i => fs.setOwner i w.owner w.group
    if !(← report ("cannot change ownership of " ++ shellQuoted target) given) then return false
  report ("cannot change permissions of " ++ shellQuoted target)
    (← changeFiles fun fs cwd => (fs.resolve cwd target true).map fun i => fs.setMode i w.mode)

/-- Makes the directories on the way to a copy. -/
def makeWay (w : Wanted) (target : String) : Tool Bool := do
  match ← makeAncestors w target with
  | none => return true
  | some (ancestor, e) => report ("cannot create directory " ++ shellQuoted ancestor) (.error e)

/-- Installs files in a directory, which may have to be made. -/
def installInto (call : Call) (w : Wanted) (directory : String) (isThere ok : Bool) : List String → Work Bool
  | [] => return ok
  | source :: rest => do
    let target := inDirectory directory (nameFor source)
    let made ← if isThere then pure true else makeWay w target
    let installed ← if made then installFile call w source target else pure false
    installInto call w directory true (ok && installed) rest

/-! ## Options -/

/-- The number of an account that is named or given by number. -/
def account (what : String) (named : Option Nat) (text : String) : Tool Nat :=
  match named with
  | some number => return number
  | none => match Amount.readIn 0 false "" text with
    | .ok n => if n < 2 ^ 32 then return n.toNat else refuse
    | .error _ => refuse
where
  refuse : Tool Nat := fail 1 ("invalid " ++ what ++ " " ++ quote text)

def switches : List Switch := Backup.switches ++ [.letter 'c' "" .none, .letter 'C' "compare" .none,
  .letter 's' "strip" .none, ⟨"program", "strip-program", .required⟩, .letter 'd' "directory" .none,
  .letter 'D' "" .none, .letter 'g' "group" .required, .letter 'm' "mode" .required,
  .letter 'o' "owner" .required, .letter 'p' "preserve-timestamps" .none,
  .letter 't' "target-directory" .required, .letter 'T' "no-target-directory" .none,
  .letter 'v' "verbose" .none, .letter 'Z' "" .none, ⟨"context", "context", .optional⟩,
  ⟨"keep-context", "preserve-context", .none⟩]

/-- Where files are installed. -/
inductive Target where
  | directories (paths : List String)
  | file (source target : String)
  | into (directory : String) (isThere : Bool) (sources : List String)

/-- Tells operands and destination apart. -/
def targetOf (p : Parsed) : Tool Target := do
  let asDirectories := p.has "d"
  let within := p.last? "t"
  match p.operands with
  | [] => misuse 1 "missing file operand"
  | [source] => if !asDirectories && within.isNone then
      misuse 1 ("missing destination file operand after " ++ shellQuoted source)
  | _ => pure ()
  let isDirectory (path : String) : Tool (Except Errno Unit) := do
    match ← inspect path true with
    | .ok there => return if there.isDirectory then .ok () else .error .notDirectory
    | .error e => return .error e
  if p.has "T" then
    if within.isSome then fail 1 "cannot combine --target-directory (-t) and --no-target-directory (-T)"
    if 2 < p.operands.length then misuse 1 ("extra operand " ++ shellQuoted (p.operands.getD 2 ""))
  else if let some directory := within then
    match ← isDirectory directory with
    | .ok () => return .into directory true p.operands
    | .error e =>
      if p.has "D" && e = .notFound then return .into directory false p.operands
      fail 1 ("failed to access " ++ shellQuoted directory ++ ": " ++ e.message)
  else if !asDirectories then
    let last := p.operands.getLastD ""
    match ← isDirectory last with
    | .ok () => return .into last true p.operands.dropLast
    | .error e => if 2 < p.operands.length then fail 1 ("target " ++ shellQuoted last ++ ": " ++ e.message)
  if asDirectories then return .directories p.operands
  return .file (p.operands.getD 0 "") (p.operands.getD 1 "")

/-- What is wanted of the options. -/
def wantedOf (p : Parsed) (backup : Backup) : Tool Wanted := do
  let usual : Mode.Spec := [{ who := 0o7777, operator := '=', bits := usualMode, exact := true }]
  let spec := (← modeOf p fun text => "invalid mode " ++ quote text).getD usual
  if p.has "program" && !p.has "s" then
    warn "WARNING: ignoring --strip-program option as -s option was not specified"
  let mode := Mode.apply spec false 0 0
  if p.has "C" then
    if p.has "p" then misuse 1 "options --compare (-C) and --preserve-timestamps are mutually exclusive"
    if p.has "s" then misuse 1 "options --compare (-C) and --strip are mutually exclusive"
    if isSpecial mode then
      warn "the --compare (-C) option is ignored when you specify a mode with non-permission bits"
  let directoryMode := Mode.apply spec true 0 0
  let owner ← (p.last? "o").mapM fun text => account "user" ((Accounts.userNamed? text).map (·.number)) text
  let group ← (p.last? "g").mapM fun text => account "group" ((Accounts.groupNamed? text).map (·.number)) text
  return {
    copying := {
      following := .always, removesFirst := true, mode := some 0o600, backup
      keepsTime := p.has "p", verbose := p.has "v" }
    mode, directoryMode, owner, group
    directoryBits := if p.has "m" then
      Mode.without 0o7777 (directoryMode ^^^ Mode.apply spec true 0 0o7777) else 0o7777
    compares := p.has "C", makesParents := p.has "D"
    strips := if p.has "s" then some ((p.last? "program").getD "strip") else none }

end Installing

open Installing in
def install (call : Call) : Tool Nat := do
  let check (given : Given) : Tool Unit := do
    let (key, word) := given
    if key == "keep-context" then
      warn "WARNING: ignoring --preserve-context; this kernel is not SELinux-enabled"
    if key == "context" && word.isSome then warnOfContext "SELinux-enabled"
  let p ← parseWith switches false 1 call.operands check
  checkDirectories p
  if p.has "d" then
    if p.has "s" then fail 1 "the strip option may not be used when installing a directory"
    if p.has "t" then fail 1 "target directory not allowed when installing a directory"
  let backup ← Backup.ofOptions p call.environment
  let target ← targetOf p
  let w ← wantedOf p backup
  match target with
  | .directories paths => forOperands paths (makeDirectory w)
  | .file source target => Copying.runAll do
    let made ← if w.makesParents then makeWay w target else pure true
    if made then installFile call w source target else return false
  | .into directory isThere sources => Copying.runAll (installInto call w directory isThere true sources)

end PipeShell.Host.Tool
