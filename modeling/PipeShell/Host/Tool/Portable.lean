import PipeShell.Host.FileSystem
import PipeShell.Host.Tool.Options

/-! # The tool `pathchk`

A path is checked against the limits of this host, or against those that all hosts keep. -/

namespace PipeShell.Host.Tool

namespace Portable

/-- What is asked of a path. -/
structure Wanted where
  /-- Whether only those characters and lengths are allowed that are allowed everywhere. -/
  isBasic : Bool
  /-- Whether a path must not be empty, nor a name in it begin with a dash. -/
  isExtra : Bool

/-- How long paths and names may be everywhere, and how long the latter are on every host that is in
use. -/
def leastPath : Nat := 256

def leastName : Nat := 14

def isPortable (c : Char) : Bool := c.isAlphanum || "/._-".toList.contains c

/-- Complains that something is too long. -/
def refuseLength (limit length : Nat) (what : Message) : Tool Bool := do
  warn ("limit " ++ toString limit ++ " exceeded by length " ++ toString length ++ " of " ++ what)
  return false

/-- Checks the lengths of names. -/
def checkNames (most : Nat) (path : String) : Tool Bool := do
  match (FileSystem.namesOf path).find? (most < ·.length) with
  | none => return true
  | some name => refuseLength most name.length ("file name component " ++ quote name)

/-- Whether there is a node at a path; an error that says no more than that there is none is no
mistake. -/
def exists? (path : String) : Tool (Option Bool) := do
  match ← files fun fs cwd => fs.resolve cwd path false with
  | .ok _ => return some true
  | .error e =>
    if e = .notFound && !path.isEmpty then return some false
    warnOf (quoteName path) e
    return none

/-- Checks a path, and complains of the first thing that is wrong with it. -/
def check (w : Wanted) (path : String) : Tool Bool := do
  if w.isExtra && (path.splitOn "/").any (·.startsWith "-") then
    warn ("leading '-' in a component of file name " ++ shellQuoted path)
    return false
  if (w.isBasic || w.isExtra) && path.isEmpty then
    warn "empty file name"
    return false
  if w.isBasic then
    let rest := String.ofList (path.toList.dropWhile isPortable)
    if let some first := ((← get).encoding.glyphs rest).head? then
      warn ("nonportable character " ++ quote (String.ofList first.bytes) ++ " in file name " ++
        shellQuoted path)
      return false
    if leastPath ≤ path.length then
      return ← refuseLength (leastPath - 1) path.length ("file name " ++ shellQuoted path)
    checkNames leastName path
  else
    match ← exists? path with
    | none => return false
    | some true => return true
    | some false =>
      if FileSystem.maxPath ≤ path.length then
        return ← refuseLength (FileSystem.maxPath - 1) path.length ("file name " ++ shellQuoted path)
      checkNames FileSystem.maxName path

end Portable

def pathchk (call : Call) : Tool Nat := do
  let p ← parse [.letter 'p' "" .none, .letter 'P' "" .none, ⟨"portability", "portability", .none⟩]
    true 1 call.operands
  if p.operands.isEmpty then missingOperand 1
  let w : Portable.Wanted :=
    { isBasic := p.hasAny ["p", "portability"], isExtra := p.hasAny ["P", "portability"] }
  let ok ← p.operands.foldlM (fun ok path => return (← Portable.check w path) && ok) true
  return if ok then 0 else 1

end PipeShell.Host.Tool
