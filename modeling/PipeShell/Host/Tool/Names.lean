import PipeShell.Host.Tool.Making

/-! # Names of files

What a path leads to: the name without links, and the text of a link. -/

namespace PipeShell.Host.Tool
namespace Naming

/-- What may be missing on the way. -/
inductive Missing where
  | nothing | last | anything
  deriving DecidableEq

/-- Whether what follows a name asks for a directory: a slash at the end, a last dot, or two dots. -/
def needsDirectory (slashed : Bool) : List String → Bool
  | [] => slashed
  | "." :: rest => rest.isEmpty || needsDirectory slashed rest
  | ".." :: _ => true
  | _ => false

def fullName (names : List String) : String := "/" ++ "/".intercalate names

/-- Follows names from the ones that are done, until none of them is a link. -/
def canonical (fs : FileSystem) (missing : Missing) (follows : Bool) (links : Nat) (slashed : Bool)
    (done : List String) (names : List String) : Except Errno (List String) :=
  match names with
  | [] => pure done
  | name :: rest =>
    if name == "." then canonical fs missing follows links slashed done rest
    else if name == ".." then canonical fs missing follows links slashed done.dropLast rest
    else
      let here := done ++ [name]
      let goOn (_ : Unit) : Except Errno (List String) :=
        canonical fs missing follows links slashed here rest
      let check (answer : Except Errno Inode) : Except Errno (List String) :=
        match answer with
        | .ok _ => goOn ()
        | .error e => if missing = .last && e = .notFound && rest.isEmpty then goOn () else throw e
      if missing = .anything && !follows then goOn ()
      else match fs.resolve FileSystem.root (fullName here) false, follows with
        | .ok i, true => match fs.body? i with
          | some (.link target) => match links with
            | 0 => if missing = .anything then goOn () else throw .linkLoop
            | links + 1 =>
              canonical fs missing follows links (if rest.isEmpty then slashed || target.endsWith "/" else slashed)
                (if target.startsWith "/" then [] else done) (FileSystem.namesOf target ++ rest)
          | _ =>
            if missing != .anything && needsDirectory slashed rest && !fs.isDirectory i then throw .notDirectory
            else goOn ()
        | .error e, true => if missing = .anything then goOn () else check (throw e)
        | _, false =>
          if needsDirectory slashed rest then check (fs.resolveDirectory FileSystem.root (fullName here))
          else if rest.isEmpty then check (fs.resolve FileSystem.root (fullName here) true)
          else goOn ()
termination_by (links, names.length)

/-- The name of a path without links. -/
def canonicalName (missing : Missing) (follows : Bool) (path : String) : Tool (Except Errno (List String)) :=
  files fun fs cwd => do
    if path.isEmpty then throw .notFound
    let start ← if path.startsWith "/" then pure [] else match fs.namesTo? cwd fs.nodes.size with
      | some names => pure names
      | none => throw .notFound
    canonical fs missing follows FileSystem.maxLinks (path.endsWith "/") start (FileSystem.namesOf path)

/-- A name as seen from a directory. -/
def relative (base names : List String) : String :=
  let shared := ((base.zip names).takeWhile fun (a, b) => a == b).length
  let up := List.replicate (base.length - shared) ".."
  let parts := up ++ names.drop shared
  if parts.isEmpty then "." else "/".intercalate parts

def isBelow (base names : List String) : Bool := names.take base.length == base

end Naming

open Naming

def pwd (call : Call) : Tool Nat := do
  let p ← parse [.letter 'L' "logical" .none, .letter 'P' "physical" .none] false 1 call.operands
  if !p.operands.isEmpty then warn "ignoring non-option arguments"
  let logical : Option String ← if p.lastOf? ["L", "P"] != some "L" then pure none
    else match valueIn call.environment "PWD" with
      | none => pure none
      | some path => files fun fs cwd =>
        let plain := path.startsWith "/" && (FileSystem.namesOf path).all fun n => n != "." && n != ".."
        match fs.resolve cwd path true with
        | .ok i => if plain && i == cwd then some path else none
        | .error _ => none
  match logical, ← files fun fs cwd => fs.pathOf cwd with
  | some path, _ | none, .ok path =>
    print (path ++ "\n")
    return 0
  | none, .error _ =>
    fail 1 ("couldn't find directory entry in " ++ quote ".." ++ " with matching i-node")

def readlink (call : Call) : Tool Nat := do
  let p ← parse [.letter 'f' "canonicalize" .none, .letter 'e' "canonicalize-existing" .none,
    .letter 'm' "canonicalize-missing" .none, .letter 'n' "no-newline" .none, .letter 'q' "quiet" .none,
    .letter 's' "silent" .none, .letter 'v' "verbose" .none, .letter 'z' "zero" .none] false 1 call.operands
  if p.operands.isEmpty then missingOperand 1
  let missing : Option Missing := (p.lastOf? ["f", "e", "m"]).map fun key =>
    if key == "f" then .last else if key == "e" then .nothing else .anything
  let bare := p.has "n" && p.operands.length == 1
  if p.has "n" && !bare then warn "ignoring --no-newline with multiple arguments"
  let stop := if bare then "" else if p.has "z" then "\x00" else "\n"
  forOperands p.operands fun path => do
    let answer : Except Errno String ← match missing with
      | some missing => pure ((← canonicalName missing true path).map fullName)
      | none => files fun fs cwd => do
        match fs.body? (← fs.resolve cwd path false) with
        | some (.link target) => pure target
        | _ => throw .invalidArgument
    match answer with
    | .ok text =>
      print (text ++ stop)
      return true
    | .error e =>
      if p.lastOf? ["v", "q", "s"] == some "v" then warnOf (quoteName path) e
      return false

def realpath (call : Call) : Tool Nat := do
  let p ← parse [.letter 'e' "canonicalize-existing" .none, .letter 'm' "canonicalize-missing" .none,
    .letter 'L' "logical" .none, .letter 'P' "physical" .none, .letter 'q' "quiet" .none,
    .letter 's' "strip" .none, ⟨"s", "no-symlinks", .none⟩, ⟨"to", "relative-to", .required⟩,
    ⟨"base", "relative-base", .required⟩, .letter 'z' "zero" .none] false 1 call.operands
  if p.operands.isEmpty then missingOperand 1
  let missing : Missing := match p.lastOf? ["e", "m"] with
    | some "e" => .nothing
    | some _ => .anything
    | none => .last
  let how := p.lastOf? ["L", "P", "s"]
  let follows := how != some "s"
  let nameOf (path : String) : Tool (Except Errno (List String)) := do
    if how != some "L" then canonicalName missing follows path
    else match ← canonicalName missing false path with
      | .ok names => canonicalName missing true (fullName names)
      | .error e => return .error e
  let directory (key : String) : Tool (Option (List String)) := do
    match p.last? key with
    | none => return none
    | some path => match ← nameOf path with
      | .ok names =>
        if missing = .nothing && !(← files fun fs cwd => (fs.resolveDirectory cwd path).isOk) then
          fail 1 (quoteName path ++ ": Not a directory")
        return some names
      | .error e => fail 1 (quoteName path ++ ": " ++ e.message)
  let base ← directory "base"
  let origin ← directory "to"
  let origin := match base, origin with
    | some base, some origin => if isBelow base origin then some origin else none
    | some base, none => some base
    | none, origin => origin
  forOperands p.operands fun path => do
    match ← nameOf path with
    | .error e =>
      if !p.has "q" then warnOf (quoteName path) e
      return false
    | .ok names =>
      let shown := match origin with
        | some origin => if (base.map fun b => isBelow b names).getD true then relative origin names else fullName names
        | none => fullName names
      print (shown ++ (if p.has "z" then "\x00" else "\n"))
      return true

end PipeShell.Host.Tool
