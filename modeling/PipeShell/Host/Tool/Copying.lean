import PipeShell.Host.Tool.Backup

/-! # Copying and moving

What an operand names is copied to a path, or into a directory under its last name. Moving is
renaming: all names of a host lie in one file system. -/

namespace PipeShell.Host.Tool
namespace Copying

/-- Which links are copied as what they lead to. -/
inductive Following where
  | never | operands | always
  deriving DecidableEq

/-- What happens to a file that is in the way. -/
inductive Overwriting where
  | replaces | asks | keeps
  deriving DecidableEq

structure Wanted where
  moves : Bool := false
  recursive : Bool := false
  following : Following := .never
  overwriting : Overwriting := .replaces
  forces : Bool := false
  /-- Whether a file that is in the way is removed before it is written. -/
  removesFirst : Bool := false
  /-- Whether a file that is not older than its source is left alone. -/
  updates : Bool := false
  verbose : Bool := false
  makesHardLinks : Bool := false
  makesLinks : Bool := false
  /-- What becomes of a file that is in the way of a new one. -/
  backup : Backup := {}
  /-- Whether the bytes of files are copied. -/
  copiesBytes : Bool := true
  /-- Whether copies are to share the bytes with their sources, which a host does not offer. -/
  shares : Bool := false
  /-- Whether what is neither a directory nor a link is copied as a file. -/
  copiesSpecial : Bool := false
  keepsMode : Bool := false
  keepsTime : Bool := false
  keepsOwner : Bool := false
  /-- Whether new files have the bits that they have without a source. -/
  usesOwnMode : Bool := false
  /-- The permission bits that copies are to have. -/
  mode : Option Nat := none
  /-- Whether names of one file become names of one copy. -/
  keepsLinks : Bool := false

/-- A name in a directory and what it names. -/
structure Entry where
  directory : Inode
  name : String
  inode : Inode
  deriving DecidableEq

/-- What has been done so far. -/
structure Progress where
  /-- Where nodes have been copied to. -/
  copies : List (Inode × String) := []
  sources : List Entry := []
  /-- What operands have been copied to. -/
  made : List Entry := []
  /-- Whether a directory has been made for this operand. -/
  hasMade : Bool := false
  /-- Whether a directory has been found in its own copy. -/
  intoItself : Bool := false

/-- A part of the work of copying. -/
abbrev Work := StateT Progress Tool

/-- Whether a node is a regular file. -/
def holdsBytes : Body → Bool
  | .file _ | .program _ => true
  | _ => false

/-- What a path leads to. -/
structure Found where
  inode : Inode
  node : Node
  links : Nat

namespace Found

def isDirectory (f : Found) : Bool := f.node.body matches .directory ..

def isLink (f : Found) : Bool := f.node.body matches .link _

def isRegular (f : Found) : Bool := holdsBytes f.node.body

end Found

def inspect (path : String) (follow : Bool) : Tool (Except Errno Found) := files fun fs cwd => do
  let i ← fs.resolve cwd path follow
  match fs.node? i with
  | some node => return { inode := i, node, links := fs.linkCount i }
  | none => throw .notFound

/-- The path without its last name. -/
def directoryOf (path : String) : String :=
  let back := (withoutSlashes path).toList.reverse.dropWhile (· != '/')
  if back.isEmpty then "." else withoutSlashes (String.ofList back.reverse)

/-- The entry that a path ends in. A link in front of its last name is not followed. -/
def entry? (path : String) : Tool (Option Entry) := files fun fs cwd =>
  match fs.resolve cwd (directoryOf path) false, fs.resolve cwd path false with
  | .ok directory, .ok inode => some { directory, name := nameFor path, inode }
  | _, _ => none

def isSameEntry (a b : String) : Tool Bool := do
  let one ← entry? a
  let other ← entry? b
  return one.isSome && one.map (fun e => (e.directory, e.name)) == other.map fun e => (e.directory, e.name)

/-- Whether a source may be copied over what is there, or whether nothing is to be done. -/
inductive Sameness where
  | different | same | done
  deriving DecidableEq

/-- Whether a link leads to a path on its way, and not only to the same node. -/
def leadsTo (source target : String) : Tool Bool := do
  let one ← files fun fs cwd => (fs.finalPlace cwd source FileSystem.maxLinks).toOption
  let other ← entry? target
  return one.isSome && one == other.map fun e => (e.directory, e.name)

/-- Tells whether a copy would overwrite its own source. -/
def sameness (w : Wanted) (source target : String) (from_ onto : Found) : Tool Sameness := do
  let same := from_.inode == onto.inode
  if same && w.makesHardLinks then return .done
  let never := w.following == .never
  if never && from_.isLink && onto.isLink then
    if ← isSameEntry source target then return .same
    if w.backup.isMade then return .different
    return if same then (if w.moves then .same else .done) else .different
  if !never && !same then return .different
  let (sourceLink, targetLink) ←
    if never then pure (from_, onto)
    else match ← inspect source false, ← inspect target false with
      | .ok s, .ok t => pure (s, t)
      | _, _ => pure (from_, onto)
  if !never && sourceLink.isLink && targetLink.isLink && w.removesFirst then return .different
  if w.backup.isMade then
    if sourceLink.inode == targetLink.inode then
      return if ← isSameEntry source target then .same else .different
    return if !w.moves && !never && sourceLink.isLink && !targetLink.isLink then .same else .different
  if (w.moves || w.removesFirst) && targetLink.isLink then return .different
  if w.removesFirst && sourceLink.inode == targetLink.inode && targetLink.links > 1 then
    if !(← isSameEntry source target) then return .different
  if !sourceLink.isLink && !targetLink.isLink && sourceLink.inode != targetLink.inode then
    return .different
  if w.moves && from_.isLink && 1 < targetLink.links then
    return if ← leadsTo source target then .same else .different
  if w.makesLinks && targetLink.isLink then return .different
  if never then
    match ← inspect source true, ← inspect target true with
    | .ok s, .ok t => return if s.inode == t.inode then .same else .different
    | _, _ => return .different
  return .same

/-- Renames what nothing is in the way of. -/
def renameFree (fs : FileSystem) (cwd : Inode) (old new : String) : Except Errno FileSystem := do
  let _ ← fs.placeOf cwd old
  let place ← fs.placeOf cwd new
  let (oldDir, oldName, _) ← fs.renamePlace cwd old
  match place.last with
  | .name name =>
    let _ ← fs.child oldDir oldName
    if (fs.child place.directory name).isOk then throw .fileExists
    fs.rename cwd old new
  | _ => throw .fileExists

def showCopy (source target : String) (backup : Option String) : Message :=
  let kept : Message := match backup with
    | some name => " (backup: " ++ shellQuoted name ++ ")"
    | none => ""
  shellQuoted source ++ " -> " ++ shellQuoted target ++ kept ++ "\n"

def fullDevice : Errno := ⟨28⟩

/-- Gives a copy the properties of its source that it is to have. -/
def keep (w : Wanted) (source : Found) (i : Inode) : Tool Unit := do
  let _ ← changeFiles fun fs _ =>
    let n := source.node
    let fs := if w.keepsOwner then fs.setOwner i n.owner n.group else fs
    let fs := if n.body matches .link _ then fs
      else if w.keepsMode then fs.setMode i n.mode
      else match w.mode with
        | some mode => fs.setMode i mode
        | none => fs
    .ok (if w.keepsTime then fs.setTimes i n.accessed n.modified else fs)

/-- The bits of a new file without a source. -/
def ownMode (w : Wanted) (isDirectory : Bool) (mode : Nat) : Nat :=
  if w.usesOwnMode then (if isDirectory then 0o777 else 0o666) else mode &&& 0o777

/-- Fills an open file with what its source holds. -/
def fill (source : Found) (from_ onto : Nat) (path target : String) : Tool Bool := do
  let place ← act (Act.nodeAt? onto)
  let direct ← files fun fs _ => place.bind fun (i, _) =>
    if holdsBytes source.node.body && (fs.body? i).any holdsBytes then some i else none
  match direct with
  | some i =>
    let _ ← changeFiles fun fs _ => .ok (fs.setBody i source.node.body)
    return true
  | none =>
    match ← act (Act.readAll from_) with
    | .error e => report ("error reading " ++ shellQuoted path) (.error e)
    | .ok bytes => report ("error writing " ++ shellQuoted target) (← act (Act.write onto bytes))

/-- Opens what is to be written. -/
def openTarget (w : Wanted) (fresh : Bool) (mode : Nat) (target : String) : Tool (Except Errno Nat) := do
  let create : World.OpenMode := { write := true, create := some mode, exclusive := true }
  if fresh then act (Act.openFile target create)
  else match ← act (Act.openFile target { write := true, truncate := w.copiesBytes }) with
    | .ok fd => return .ok fd
    | .error e =>
      if e != .notFound && !w.forces then return .error e
      if e != .notFound then
        match ← changeFiles fun fs cwd => fs.removeFile cwd target with
        | .ok () => if w.verbose then print ("removed " ++ shellQuoted target ++ "\n")
        | .error why =>
          if why != .notFound then
            warnOf ("cannot remove " ++ shellQuoted target) why
            throw 1
      act (Act.openFile target create)

/-- Copies the bytes of a file. -/
def copyFile (w : Wanted) (fresh : Bool) (found : Found) (source target : String) : Tool Bool := do
  match ← act (Act.openFile source { read := true }) with
  | .error e => report ("cannot open " ++ shellQuoted source ++ " for reading") (.error e)
  | .ok from_ =>
    match ← openTarget w fresh ((w.mode.getD (ownMode w false found.node.mode)) &&& 0o777) target with
    | .error e =>
      act (Act.close from_)
      let isLink ← files fun fs cwd => match fs.resolve cwd target false with
        | .ok i => (fs.body? i matches some (.link _))
        | .error _ => false
      if e = .fileExists && isLink then
        warn ("not writing through dangling symlink " ++ shellQuoted target)
        return false
      let e : Errno := if e = .isDirectory && target.endsWith "/" then .notDirectory else e
      report ("cannot create regular file " ++ shellQuoted target) (.error e)
    | .ok onto =>
      let isRefused := w.copiesBytes && w.shares
      let ok ← if isRefused then
          report ("failed to clone " ++ shellQuoted target ++ " from " ++ shellQuoted source) (.error ⟨95⟩)
        else if w.copiesBytes then fill found from_ onto source target
        else pure true
      if !isRefused then
        if let some (i, _) ← act (Act.nodeAt? onto) then keep w found i
      act (Act.close from_)
      act (Act.close onto)
      return ok

/-- Makes a symbolic link with the text of a source. -/
def linkTo (text target : String) (forces : Bool) : Tool Bool := do
  let attempt := changeFiles fun fs cwd => fs.makeLink cwd text target
  let mut answer ← attempt
  if forces && (answer matches .error ⟨17⟩) then
    let _ ← changeFiles fun fs cwd => fs.removeFile cwd target
    answer ← attempt
  report ("cannot create symbolic link " ++ shellQuoted target ++ " to " ++ shellQuoted text) answer

/-- Makes a second name for what a source names. -/
def secondName (w : Wanted) (source target : String) (follow : Bool) : Tool Bool := do
  let attempt := changeFiles fun fs cwd => fs.addName cwd source target follow
  let mut answer ← attempt
  if (w.forces || w.overwriting == .asks || w.removesFirst) && (answer matches .error ⟨17⟩) then
    let _ ← changeFiles fun fs cwd => fs.removeFile cwd target
    answer ← attempt
  report ("cannot create hard link " ++ shellQuoted target ++ " to " ++ shellQuoted source) answer

/-- Makes a node that is no file and gives it the properties of its source. -/
def copySpecial (w : Wanted) (found : Found) (target : String) (what : String)
    (make : World → Except Errno World) : Tool Bool := do
  let answer : Except Errno Unit ← act (Act.call fun world =>
    match make { world with files := { world.files with now := world.clock } } with
    | .ok world => (.ok (), world)
    | .error e => (.error e, world))
  if answer.isOk then
    if let .ok made ← inspect target false then keep w found made.inode
  report (what ++ " " ++ shellQuoted target) answer

/-- Copies what is no directory. -/
def copyLeaf (w : Wanted) (fresh follow : Bool) (found : Found) (source target : String) : Work Bool := do
  if w.makesLinks then
    let isHere ← files fun fs cwd => (fs.placeOf cwd target).toOption.all (·.directory == cwd)
    if !source.startsWith "/" && !isHere then
      warn (quoteName target ++ ": can make relative symbolic links only in current directory")
      return false
    return ← linkTo source target w.forces
  if w.makesHardLinks then return ← secondName w source target follow
  match found.node.body with
  | .link text =>
    let attempt := changeFiles fun fs cwd => fs.makeLink cwd text target
    let mut answer ← attempt
    if w.forces && (answer matches .error ⟨17⟩) then
      let _ ← changeFiles fun fs cwd => fs.removeFile cwd target
      answer ← attempt
    if answer.isOk then
      if let .ok made ← inspect target false then keep w found made.inode
    report ("cannot create symbolic link " ++ shellQuoted target) answer
  | .fifo _ =>
    if !w.recursive || w.copiesSpecial then return ← copyFile w fresh found source target
    let mode ← newMode none false found.node.mode
    copySpecial w found target "cannot create fifo" fun world => do
      let files ← world.files.makeNode world.cwd target (.fifo world.pipes.size) mode
      return { world with files, pipes := world.pipes.push .empty }
  | .device device =>
    if !w.recursive || w.copiesSpecial then return ← copyFile w fresh found source target
    let mode ← newMode none false found.node.mode
    copySpecial w found target "cannot create special file" fun world => do
      let files ← world.files.makeNode world.cwd target (.device device) mode
      return { world with files }
  | _ => copyFile w fresh found source target

/-- Whether a file may be overwritten. -/
def mayOverwrite (w : Wanted) (target : String) : Tool Bool := do
  match w.overwriting with
  | .replaces => return true
  | .keeps => return false
  | .asks =>
    flush
    note ((← get).name ++ ": overwrite " ++ shellQuoted target ++ "? ")
    return (← Removal.agrees { fd := 0 }).1

/-- What becomes of a copy when something is in its way. -/
inductive Way where
  /-- It is done or given up. -/
  | finished (ok : Bool)
  /-- It goes on, in a place that is free or not; what was there may be kept under a name. -/
  | on (fresh : Bool) (backup : Option String := none)

/-- Whether a copy takes the place of a name, and not of what the name leads to. -/
def replacesName (w : Wanted) (found : Found) : Bool :=
  w.moves || w.makesLinks || w.makesHardLinks || w.removesFirst || w.backup.isMade ||
    (!found.isRegular && (w.recursive || found.isDirectory || found.isLink))

/-- Keeps what is in the way under another name, unless that would overwrite the source. -/
def setAside (w : Wanted) (found : Found) (source target : String) : Tool Way := do
  let simple := target ++ w.backup.suffix
  if w.backup.kind != .numbered && nameFor source == nameFor target ++ w.backup.suffix then
    if let .ok kept ← inspect simple true then
      if kept.inode == found.inode then
        let what := if w.moves then "moved" else "copied"
        warn ("backing up " ++ shellQuoted target ++ " might destroy source;  " ++ shellQuoted source ++
          " not " ++ what)
        return .finished false
  match ← w.backup.make target with
  | .ok name => return .on true (some name)
  | .error e =>
    if e = .notFound then return .on true
    warnOf ("cannot backup " ++ shellQuoted target) e
    return .finished false

/-- Puts what was kept under another name back in its place. -/
def putBack (w : Wanted) (target : String) (backup : Option String) : Tool Unit := do
  if let some name := backup then
    match ← changeFiles fun fs cwd => fs.rename cwd name target with
    | .error e => warnOf ("cannot un-backup " ++ shellQuoted target) e
    | .ok () =>
      if w.verbose then
        print (shellQuoted name ++ " -> " ++ shellQuoted target ++ " (unbackup)\n")

/-- Whether a path names a link that has been made for an operand of the same call. -/
def isMadeLink (target : String) : Work Bool := do
  let isLink := match ← inspect target false with
    | .ok there => there.isLink
    | .error _ => false
  let here ← entry? target
  return isLink && here.any (← get).made.contains

/-- Looks at what is in the way of a copy. -/
def clearWay (w : Wanted) (atOperand : Bool) (found : Found) (source target : String) : Work Way := do
  match ← inspect target (!replacesName w found) with
  | .error e =>
    if e = .notFound || (e = .linkLoop && w.forces) then return .on true
    warnOf ("cannot stat " ++ shellQuoted target) e
    return .finished false
  | .ok there =>
    match ← sameness w source target found there with
    | .same =>
      warn (shellQuoted source ++ " and " ++ shellQuoted target ++ " are the same file")
      return .finished false
    | kind =>
      if w.updates && !found.isDirectory && found.node.modified ≤ there.node.modified then return .finished true
      if (w.moves || !found.isDirectory) && !(← mayOverwrite w target) then return .finished true
      if kind == .done then return .finished true
      let isKept := w.moves && w.backup.isMade
      if found.isDirectory && !there.isDirectory && !isKept then
        warn ("cannot overwrite non-directory " ++ shellQuoted target ++ " with directory " ++
          shellQuoted source)
        return .finished false
      let here := (← entry? target).map fun e => { e with inode := there.inode }
      if atOperand && !there.isDirectory && w.backup.kind != .numbered &&
          here.any (← get).made.contains then
        warn ("will not overwrite just-created " ++ shellQuoted target ++ " with " ++ shellQuoted source)
        return .finished false
      if !found.isDirectory && there.isDirectory && !isKept then
        warn ("cannot overwrite directory " ++ shellQuoted target ++ " with non-directory")
        return .finished false
      let last := nameFor source
      if w.backup.isMade && last != "." && last != ".." && (w.moves || !there.isDirectory) then
        return ← setAside w found source target
      let gives := w.removesFirst || (w.copiesBytes && ((w.keepsLinks && there.links > 1) ||
        (w.following == .never && !found.isRegular)))
      if !there.isDirectory && !w.moves && gives then
        match ← changeFiles fun fs cwd => fs.removeFile cwd target with
        | .ok () =>
          if w.verbose then print ("removed " ++ shellQuoted target ++ "\n")
          return .on true
        | .error e =>
          warnOf ("cannot remove " ++ shellQuoted target) e
          return .finished false
      return .on false

/-- Notes that an operand has been copied to a path. -/
def noteMade (target : String) : Work Unit := do
  if let some e ← entry? target then
    modify fun (s : Progress) => { s with made := e :: s.made }

def moveOnto (w : Wanted) (first : Option Errno) (backup : Option String) (top : String × String)
    (source target : String) : Work Bool := do
  let answer : Except Errno Unit ← match first with
    | none => pure (.ok ())
    | some e =>
      if e = .fileExists then changeFiles fun fs cwd => fs.rename cwd source target else pure (.error e)
  match answer with
  | .ok () =>
    if w.verbose then print ("renamed " ++ showCopy source target backup)
    noteMade target
    return true
  | .error e =>
    if e = .invalidArgument then
      warn ("cannot move " ++ shellQuoted top.1 ++ " to a subdirectory of itself, " ++ shellQuoted top.2)
      return false
    let _ ← report ("cannot move " ++ shellQuoted source ++ " to " ++ shellQuoted target) (.error e)
    return false

/-- Whether a node has been copied already in this call, so that there is something else to do than
to copy it again: what that comes to. -/
def copyAgain? (w : Wanted) (fresh atOperand : Bool) (found : Found) (top : String × String)
    (source target : String) : Work (Option Bool) := do
  let earlier := (← get).copies.lookup found.inode
  let followsHere := w.following == .always || (w.following == .operands && atOperand)
  let counts := if found.isDirectory then w.recursive
    else w.keepsLinks && !w.makesHardLinks && (1 < found.links || followsHere)
  if !counts then return none
  match earlier with
  | none =>
    if !found.isDirectory || atOperand then
      modify fun (s : Progress) => { s with copies := (found.inode, target) :: s.copies }
    return none
  | some path =>
    if !found.isDirectory then
      let _ ← if fresh then pure (.ok ()) else changeFiles fun fs cwd => fs.removeFile cwd target
      return some (← secondName w path target false)
    if ← isSameEntry source path then
      warn ("cannot copy a directory, " ++ shellQuoted top.1 ++ ", into itself, " ++ shellQuoted top.2)
      modify fun (s : Progress) => { s with intoItself := true }
      return some false
    if ← isSameEntry target path then
      warn ("warning: source directory " ++ shellQuoted top.1 ++ " specified more than once")
      return some true
    if followsHere then return none
    warn ("will not create hard link " ++ shellQuoted target ++ " to directory " ++ shellQuoted path)
    return some false

/-- Copies a node, and all below it. The ancestors are the directories that are being copied. The
number bounds how deep they are. -/
def copy (w : Wanted) (fresh atOperand : Bool) (first : Option Errno) (top : String × String)
    (ancestors : List Inode) (source target : String) : Nat → Work Bool
  | 0 => return false
  | depth + 1 => do
    if w.moves && first.isNone then return ← moveOnto w first none top source target
    let follow := w.following == .always || (w.following == .operands && atOperand)
    match ← inspect source follow with
    | .error e => report ("cannot stat " ++ shellQuoted source) (.error e)
    | .ok found =>
      if found.isDirectory && !w.recursive then
        let why := if w.mode.isSome then "omitting directory " else "-r not specified; omitting directory "
        warn (why ++ shellQuoted source)
        return false
      if atOperand && !w.moves && w.mode.isNone then
        if let some e ← entry? source then
          let e := { e with inode := found.inode }
          if !found.isDirectory && !w.backup.isMade && (← get).sources.contains e then
            warn ("warning: source file " ++ shellQuoted source ++ " specified more than once")
            return true
          modify fun (s : Progress) => { s with sources := e :: s.sources }
      let way ← if fresh && !(atOperand && replacesName w found) then pure (.on true) else clearWay w atOperand found source target
      match way with
      | .finished ok => return ok
      | .on fresh backup =>
        if w.moves then
          if found.isDirectory then
            if let some ok ← copyAgain? w fresh atOperand found top source target then return ok
          return ← moveOnto w first backup top source target
        if atOperand && !w.backup.isMade && (← isMadeLink target) then
          warn ("will not copy " ++ shellQuoted source ++ " through just-created symlink " ++ shellQuoted target)
          return false
        if w.verbose && !found.isDirectory then print (showCopy source target backup)
        if let some ok ← copyAgain? w fresh atOperand found top source target then
          if !ok then putBack w target backup
          return ok
        if !found.isDirectory then
          let ok ← copyLeaf w fresh follow found source target
          if ok && atOperand then noteMade target
          if !ok then putBack w target backup
          return ok
        if ancestors.contains found.inode then
          warn ("cannot copy cyclic symbolic link " ++ shellQuoted source)
          return false
        if fresh then
          let mode ← newMode none true (ownMode w true found.node.mode)
          match ← changeFiles fun fs cwd => fs.makeDirectory cwd target mode with
          | .error e => return ← report ("cannot create directory " ++ shellQuoted target) (.error e)
          | .ok () => pure ()
          if w.verbose then print (showCopy source target none)
        let made ← inspect target true
        if fresh && !(← get).hasMade then
          if let .ok made := made then
            modify fun (s : Progress) =>
              { s with copies := (made.inode, target) :: s.copies, hasMade := true }
        let entries ← files fun fs _ => fs.entries found.inode
        let next := { w with following := if w.following == .always then .always else .never }
        let ok ← entries.foldlM
          (fun ok (name, _) => do
            if (← get).intoItself then return ok
            let copied ← copy next fresh false none top (found.inode :: ancestors)
              (inDirectory source name) (inDirectory target name) depth
            return ok && copied)
          true
        if let .ok made := made then keep w found made.inode
        return ok

/-- Copies or moves an operand. -/
def copyOperand (w : Wanted) (fresh : Bool) (first : Option (Option Errno)) (source target : String) :
    Work Bool := do
  modify fun (s : Progress) => { s with hasMade := false, intoItself := false }
  let first : Option Errno ← match first with
    | some first => pure first
    | none =>
      if !w.moves then pure none
      else match ← changeFiles fun fs cwd => renameFree fs cwd source target with
        | .ok () => pure none
        | .error e => pure (some e)
  copy w fresh true first (source, target) [] source target Removal.maxDepth

/-- Makes the directories of a source below a directory; the first that cannot be made ends that. -/
def makeParents (w : Wanted) (directory : String) : List String → Work Bool
  | [] => return true
  | path :: rest => do
    let target := inDirectory directory path
    match ← inspect target true with
    | .ok there =>
      if there.isDirectory then makeParents w directory rest
      else
        warn (shellQuoted target ++ " exists but is not a directory")
        return false
    | .error _ => match ← inspect path true with
      | .error e => report ("failed to get attributes of " ++ shellQuoted path) (.error e)
      | .ok found =>
        let mode ← newMode none true (found.node.mode &&& 0o777)
        match ← changeFiles fun fs cwd => fs.makeDirectory cwd target mode with
        | .error e => report ("cannot make directory " ++ shellQuoted target) (.error e)
        | .ok () =>
          if w.verbose then print (path ++ " -> " ++ target ++ "\n")
          makeParents w directory rest

/-- Does the work for all operands. -/
def runAll (work : Work Bool) : Tool Nat := do
  let (ok, _) ← work.run {}
  return codeOf ok

/-- How operands are put into a directory. -/
structure Placing where
  stripsSlashes : Bool
  /-- Whether the directories on the way are made there too. -/
  withParents : Bool := false

/-- Copies or moves operands into a directory. -/
def intoDirectory (w : Wanted) (placing : Placing) (directory : String) (sources : List String) : Work Bool :=
  sources.foldlM
    (fun ok source => do
      let source := if placing.stripsSlashes then withoutSlashes source else source
      if placing.withParents then
        let path := withoutSlashes source
        let made ← makeParents w directory ((pathsTo path).dropLast)
        if !made then return false
        return (← copyOperand w false none source (inDirectory directory path)) && ok
      let name := nameFor source
      let target := inDirectory directory (if name == ".." && !w.moves then "." else name)
      return (← copyOperand w false none source target) && ok)
    true

/-- Ends the tool if there are too few operands, or too many of them. -/
def checkCount (p : Parsed) : Tool Unit := do
  match p.operands, p.has "t" with
  | [], _ => misuse 1 "missing file operand"
  | [source], false => misuse 1 ("missing destination file operand after " ++ shellQuoted source)
  | _ :: _ :: extra :: _, false => do
    if p.has "T" then misuse 1 ("extra operand " ++ shellQuoted extra)
  | _, _ => return

/-- Where operands go to. -/
inductive Destination where
  | into (directory : String) (sources : List String)
  | exactly (source target : String)
  /-- One operand becomes another one; it may have been moved there already, or that may have failed. -/
  | single (source target : String) (first : Option (Option Errno)) (there : Except Errno Found)

/-- Tells operands and destination apart. A single operand that is to be moved to where nothing is goes
there at once. -/
def destinationOf (moves : Bool) (p : Parsed) : Tool Destination := do
  checkDirectories p
  checkCount p
  match p.operands, p.last? "t", p.has "T" with
  | _, some _, true => fail 1 "cannot combine --target-directory (-t) and --no-target-directory (-T)"
  | sources, some directory, false =>
    match ← inspect directory true with
    | .ok there =>
      if !there.isDirectory then fail 1 ("target directory " ++ shellQuoted directory ++ ": Not a directory")
      return .into directory sources
    | .error e => fail 1 ("target directory " ++ shellQuoted directory ++ ": " ++ e.message)
  | operands, none, true => return .exactly (operands.headD "") (operands.getD 1 "")
  | operands, none, false =>
    let last := operands.getLast?.getD ""
    let first : Option (Option Errno) ← match moves, operands with
      | true, [source, target] =>
        match ← changeFiles fun fs cwd => renameFree fs cwd source target with
        | .ok () => pure (some none)
        | .error e => pure (some (some e))
      | _, _ => pure none
    let there ← inspect last true
    let isDirectory := match there with
      | .ok there => there.isDirectory
      | .error _ => false
    if !(first matches some none) && isDirectory then return .into last operands.dropLast
    match operands with
    | [source, target] => return .single source target first there
    | _ =>
      let why : Errno := match there with
        | .error e => e
        | .ok _ => .notDirectory
      fail 1 ("target " ++ shellQuoted last ++ ": " ++ why.message)

/-- Does the work for a destination. -/
def place (w : Wanted) (placing : Placing) : Destination → Tool Nat
  | .into directory sources => runAll (intoDirectory w placing directory sources)
  | .exactly source target => runAll (copyOperand w false none source target)
  | .single source target first there => do
    if placing.withParents then misuse 1 "with --parents, the destination must be a directory"
    let source := if placing.stripsSlashes then withoutSlashes source else source
    let fresh := !w.moves && (there matches .error ⟨2⟩)
    let isFile := match there with
      | .ok there => there.isRegular
      | .error _ => false
    -- A file that is copied to itself with a backup becomes the backup alone.
    if !w.moves && w.forces && w.backup.isMade && source == target && isFile then
      let target ← w.backup.nameFor target
      return ← runAll (copyOperand { w with backup := {} } fresh first source target)
    runAll (copyOperand w fresh first source target)

def overwritingOf (p : Parsed) : Overwriting :=
  match p.lastOf? ["f", "i", "n"] with
  | some "i" => .asks
  | some "n" => .keeps
  | _ => .replaces

/-- Properties that a copy may keep. -/
inductive Property where
  | mode | time | owner | links | context | extended | all
  deriving DecidableEq

def properties : List (String × Property) := [("mode", .mode), ("timestamps", .time),
  ("ownership", .owner), ("links", .links), ("context", .context), ("xattr", .extended), ("all", .all)]

/-- Turns properties in a list on or off. -/
def keepListed (w : Wanted) (option text : String) (isOn : Bool) : Tool Wanted := do
  (text.splitOn ",").foldlM
    (fun (w : Wanted) word => do
      let usesOwn := !isOn
      match ← choose option properties word with
      | .mode => return { w with keepsMode := isOn, usesOwnMode := usesOwn }
      | .time => return { w with keepsTime := isOn }
      | .owner => return { w with keepsOwner := isOn }
      | .links => return { w with keepsLinks := isOn }
      | .all => return { w with
          keepsMode := isOn, keepsTime := isOn, keepsOwner := isOn, keepsLinks := isOn
          usesOwnMode := usesOwn }
      | .context | .extended => return w)
    w

/-- Turns on what an option of `cp` says about properties. -/
def keepGiven (w : Wanted) : Given → Tool Wanted
  | ("a", _) => return { w with
      keepsMode := true, keepsTime := true, keepsOwner := true, keepsLinks := true }
  | ("d", _) => return { w with keepsLinks := true }
  | ("p", _) | ("preserve", none) => return { w with
      keepsMode := true, keepsTime := true, keepsOwner := true }
  | ("preserve", some text) => keepListed w "--preserve" text true
  | ("no-preserve", text) => keepListed w "--no-preserve" (text.getD "") false
  | ("sparse", text) => do
    let _ ← choose "--sparse" [("never", 0), ("auto", 1), ("always", 2)] (text.getD "")
    return w
  | ("reflink", some text) => do
    let _ ← choose "--reflink" [("auto", 0), ("always", 1), ("never", 2)] text
    return w
  | ("context", some _) => do
    warnOfContext "SELinux-enabled"
    return w
  | _ => return w

end Copying

open Copying

def cp (call : Call) : Tool Nat := do
  let (p, kept) ← parseInto (Backup.switches ++ [.letter 'a' "archive" .none,
    ⟨"attributes", "attributes-only", .none⟩, ⟨"contents", "copy-contents", .none⟩,
    .letter 'd' "" .none, .letter 'f' "force" .none, .letter 'H' "" .none,
    .letter 'i' "interactive" .none, .letter 'l' "link" .none, .letter 'L' "dereference" .none,
    .letter 'n' "no-clobber" .none, ⟨"no-preserve", "no-preserve", .required⟩, .letter 'p' "" .none,
    ⟨"parents", "parents", .none⟩, ⟨"parents", "path", .none⟩, .letter 'P' "no-dereference" .none,
    ⟨"preserve", "preserve", .optional⟩, .letter 'r' "recursive" .none, .letter 'R' "" .none,
    ⟨"reflink", "reflink", .optional⟩, ⟨"remove", "remove-destination", .none⟩,
    ⟨"sparse", "sparse", .required⟩, ⟨"strip", "strip-trailing-slashes", .none⟩,
    .letter 's' "symbolic-link" .none, .letter 't' "target-directory" .required,
    .letter 'T' "no-target-directory" .none, .letter 'u' "update" .none, .letter 'v' "verbose" .none,
    .letter 'x' "one-file-system" .none, .letter 'Z' "" .none, ⟨"context", "context", .optional⟩])
    false 1 call.operands {} keepGiven
  if p.has "l" && p.has "s" then misuse 1 "cannot make both hard and symbolic links"
  let overwriting : Overwriting := match p.lastOf? ["i", "n"] with
    | some "i" => .asks
    | some _ => .keeps
    | none => .replaces
  if Backup.isAsked p && overwriting == .keeps then
    misuse 1 "options --backup and --no-clobber are mutually exclusive"
  let isAuto (text : String) : Bool := text.startsWith "au"
  let shares := p.has "reflink" && (p.last? "reflink").all (·.startsWith "al")
  if shares && !(p.last? "sparse").all isAuto then
    misuse 1 "--reflink can be used only with --sparse=auto"
  let backup ← Backup.ofOptions p call.environment
  let recursive := p.hasAny ["r", "R", "a"]
  let asked : Option Following := (p.lastOf? ["a", "d", "P", "L", "H"]).map fun key =>
    if key == "L" then .always else if key == "H" then .operands else .never
  let w : Wanted := { kept with
    recursive, verbose := p.has "v", forces := p.has "f", backup, overwriting
    updates := p.has "u" && overwriting != .keeps
    following := asked.getD (if recursive && !p.has "l" then .never else .always)
    removesFirst := p.has "remove"
    makesHardLinks := p.has "l", makesLinks := p.has "s"
    copiesBytes := !p.has "attributes", shares, copiesSpecial := p.has "contents" }
  let destination ← destinationOf false p
  place w { stripsSlashes := p.has "strip", withParents := p.has "parents" } destination

def mv (call : Call) : Tool Nat := do
  let p ← parse (Backup.switches ++ [.letter 'f' "force" .none,
    .letter 'i' "interactive" .none, .letter 'n' "no-clobber" .none,
    ⟨"strip", "strip-trailing-slashes", .none⟩,
    .letter 't' "target-directory" .required, .letter 'T' "no-target-directory" .none,
    .letter 'u' "update" .none, .letter 'v' "verbose" .none, .letter 'Z' "context" .none])
    false 1 call.operands
  let destination ← destinationOf true p
  let overwriting := overwritingOf p
  if Backup.isAsked p && overwriting == .keeps then
    misuse 1 "options --backup and --no-clobber are mutually exclusive"
  let w : Wanted := {
    moves := true, recursive := true, verbose := p.has "v"
    updates := p.has "u" && overwriting != .keeps
    forces := p.has "f", overwriting, backup := ← Backup.ofOptions p call.environment }
  place w { stripsSlashes := p.has "strip" } destination

end PipeShell.Host.Tool
