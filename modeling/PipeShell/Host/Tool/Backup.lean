import PipeShell.Host.Tool.Making

/-! # Backups

What is in the way of a new file can be kept under another name: with a mark behind its name or with
a number, which grows from one backup to the next. -/

namespace PipeShell.Host.Tool

inductive BackupKind where
  | none | simple | existing | numbered
  deriving DecidableEq

structure Backup where
  kind : BackupKind := .none
  /-- The mark behind a name. -/
  suffix : String := "~"

namespace Backup

/-- Whether backups are made. -/
def isMade (b : Backup) : Bool := b.kind != .none

def kinds : List (String × BackupKind) := [("none", .none), ("off", .none), ("simple", .simple),
  ("never", .simple), ("existing", .existing), ("nil", .existing), ("numbered", .numbered),
  ("t", .numbered)]

def switches : List Switch := [.letter 'b' "" .none, ⟨"backup", "backup", .optional⟩,
  .letter 'S' "suffix" .required]

/-- Whether options ask for backups. -/
def isAsked (p : Parsed) : Bool := p.hasAny ["b", "backup", "S"]

/-- What options and the environment say. -/
def ofOptions (p : Parsed) (environment : List String) : Tool Backup := do
  if !isAsked p then return {}
  let said := p.given.reverse.findSome? fun (key, word) => if key == "backup" then word else none
  let kind ← match said.filter (!·.isEmpty), valueIn environment "VERSION_CONTROL" with
    | some word, _ => choose "backup type" kinds word
    | none, some word =>
      if word.isEmpty then pure .existing else choose "$VERSION_CONTROL" kinds word
    | none, none => pure .existing
  let suffix := ((p.last? "S").or (valueIn environment "SIMPLE_BACKUP_SUFFIX")).getD ""
  return { kind, suffix := if suffix.isEmpty || suffix.toList.contains '/' then "~" else suffix }

/-- The number of a backup by its name. -/
def numberOf? (base name : String) : Option Nat :=
  let opening := base ++ ".~"
  if !name.startsWith opening then none
  else
    let rest := name.toList.drop opening.length
    let digits := rest.takeWhile Char.isDigit
    if rest.drop digits.length == ['~'] && digits.head? != some '0' then (String.ofList digits).toNat?
    else none

/-- The name that a file is to be kept under. -/
def nameFor (b : Backup) (path : String) : Tool String := do
  let path := withoutSlashes path
  let simple := path ++ b.suffix
  if b.kind == .simple then return simple
  let base := (pathsTo path).getLast?.map Removal.lastName |>.getD ""
  let directory := String.ofList (path.toList.reverse.dropWhile (· != '/')).reverse
  let names : List String ← files fun fs cwd =>
    match fs.resolve cwd (if directory.isEmpty then "." else directory) true with
    | .ok i => (fs.entries i).map (·.1)
    | .error _ => []
  match (names.filterMap (numberOf? base)).max?, b.kind with
  | none, .existing => return simple
  | last, _ => return path ++ s!".~{last.getD 0 + 1}~"

/-- Keeps a file under another name, which is the answer. -/
def make (b : Backup) (path : String) : Tool (Except Errno String) := do
  let name ← b.nameFor path
  match ← changeFiles fun fs cwd => fs.rename cwd path name with
  | .ok () => return .ok name
  | .error e => return .error e

end Backup
end PipeShell.Host.Tool
