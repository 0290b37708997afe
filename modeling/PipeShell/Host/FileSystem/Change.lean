import PipeShell.Host.FileSystem

/-! # Changes to a file system

The calls that make, remove and rename nodes. Each either succeeds as a whole or leaves the file
system as it was. -/

namespace PipeShell.Host.FileSystem

variable (fs : FileSystem)

/-! ## Entries -/

def modifyEntries (dir : Inode) (f : List (String × Inode) → List (String × Inode)) : FileSystem :=
  match fs.body? dir with
  | some (.directory parent entries) => fs.setBody dir (.directory parent (f entries))
  | _ => fs

/-- Gives a node a name in a directory, in place of one that had it. -/
def enter (dir : Inode) (name : String) (i : Inode) : FileSystem :=
  fs.modifyEntries dir fun entries => entries.filter (·.1 != name) ++ [(name, i)]

/-- Takes a name out of a directory. -/
def leave (dir : Inode) (name : String) : FileSystem :=
  fs.modifyEntries dir fun entries => entries.filter (·.1 != name)

/-- A new node under a name. -/
def add (dir : Inode) (name : String) (body : Body) (mode : Nat) : FileSystem × Inode :=
  let i := fs.nodes.size
  (({ fs with nodes := fs.nodes.push { body, mode, born := fs.moment } }).enter dir name i, i)

/-- A new node without a name. -/
def addNameless (body : Body) : FileSystem × Inode :=
  ({ fs with nodes := fs.nodes.push { body } }, fs.nodes.size)

/-- The directory with these names below `dir`; those that are missing are made. -/
def makeDirectories (fs : FileSystem) (dir : Inode) : List String → FileSystem × Inode
  | [] => (fs, dir)
  | name :: names =>
    match fs.walk true maxLinks dir [name] with
    | .ok i => makeDirectories fs i names
    | .error _ =>
      let (fs, i) := fs.add dir name (.directory dir []) 0o755
      makeDirectories fs i names

/-- A node at these names below `dir`, with the directories above it. -/
def put (dir : Inode) (names : List String) (body : Body) (mode : Nat) : FileSystem :=
  match names.getLast? with
  | none => fs
  | some name =>
    let (fs, dir) := fs.makeDirectories dir names.dropLast
    (fs.add dir name body mode).1

/-- A directory that has been removed takes no new names. -/
def checkAlive (dir : Inode) : Except Errno Unit := do
  let _ ← fs.pathOf dir

/-! ## Opening -/

/-- What opening a file may do to it. -/
structure Opening where
  write : Bool := false
  /-- The mode of the file that is made if there is none. -/
  create : Option Nat := none
  /-- It is an error if there is one. -/
  exclusive : Bool := false
  truncate : Bool := false

def truncated (i : Inode) : FileSystem :=
  match fs.body? i with
  | some (.file _) => fs.setBody i (.file .empty)
  | _ => fs

/-- The node that is there already. -/
def openExisting (how : Opening) (i : Inode) : Except Errno (FileSystem × Inode) :=
  if fs.isDirectory i && (how.write || how.create.isSome) then throw .isDirectory
  else pure (if how.truncate then fs.truncated i else fs, i)

/-- Opens what a path names. A link to nothing stands for its target, which can be made. -/
def openNode (cwd : Inode) (path : String) (how : Opening) :
    Nat → Except Errno (FileSystem × Inode)
  | 0 => throw .linkLoop
  | links + 1 => match how.create with
    | none => do fs.openExisting how (← fs.resolve cwd path true)
    | some mode => do
      let place ← fs.placeOf cwd path
      match place.last with
      | .name name =>
        if place.slashed then throw .isDirectory
        match fs.child place.directory name with
        | .error e =>
          if e ≠ .notFound then throw e
          fs.checkAlive place.directory
          pure (fs.add place.directory name (.file .empty) mode)
        | .ok i =>
          if how.exclusive then throw .fileExists
          match fs.body? i with
          | some (.link target) => openNode place.directory target how links
          | _ => fs.openExisting how i
      | _ => do
        let _ ← fs.resolve cwd path true
        throw .isDirectory

/-- Writes a whole file, which is made if it is missing. -/
def writeFile (cwd : Inode) (path : String) (content : ByteArray) : Except Errno FileSystem := do
  let how : Opening := { write := true, create := some 0o644, truncate := true }
  let (fs, i) ← fs.openNode cwd path how maxLinks
  match fs.body? i with
  | some (.file _) => pure (fs.setBody i (.file content))
  | some (.device .full) => throw ⟨28⟩
  | _ => pure fs

/-! ## Making and removing -/

/-- The directory and the name for a node that is to be made. -/
def newPlace (cwd : Inode) (path : String) : Except Errno (Inode × String) := do
  let place ← fs.placeOf cwd path
  match place.last with
  | .name name => match fs.child place.directory name with
    | .ok _ => throw .fileExists
    | .error e =>
      if e ≠ .notFound then throw e
      fs.checkAlive place.directory
      pure (place.directory, name)
  | _ => throw .fileExists

def makeDirectory (cwd : Inode) (path : String) (mode : Nat) : Except Errno FileSystem := do
  let (dir, name) ← fs.newPlace cwd path
  pure (fs.add dir name (.directory dir []) mode).1

/-- Makes a node that is no directory: slashes after its name are refused. -/
def makeNode (cwd : Inode) (path : String) (body : Body) (mode : Nat) :
    Except Errno FileSystem := do
  let (dir, name) ← fs.newPlace cwd path
  if path.endsWith "/" then throw .notFound
  pure (fs.add dir name body mode).1

def makeLink (cwd : Inode) (target path : String) : Except Errno FileSystem := do
  if target.isEmpty then throw .notFound
  fs.makeNode cwd path (.link target) 0o777

/-- Gives a node a second name. -/
def addName (cwd : Inode) (old path : String) (follow : Bool) : Except Errno FileSystem := do
  let i ← fs.resolve cwd old follow
  let (dir, name) ← fs.newPlace cwd path
  if path.endsWith "/" then throw .notFound
  if fs.isDirectory i then throw ⟨1⟩
  pure (fs.enter dir name i)

/-- Removes an empty directory. -/
def removeDirectory (cwd : Inode) (path : String) : Except Errno FileSystem := do
  let place ← fs.placeOf cwd path
  match place.last with
  | .root => throw ⟨16⟩
  | .here => throw .invalidArgument
  | .above => throw .notEmpty
  | .name name => do
    let i ← fs.child place.directory name
    match fs.body? i with
    | some (.directory _ []) => pure (fs.leave place.directory name)
    | some (.directory ..) => throw .notEmpty
    | _ => throw .notDirectory

/-- Removes the name of a node that is no directory. -/
def removeFile (cwd : Inode) (path : String) : Except Errno FileSystem := do
  let place ← fs.placeOf cwd path
  match place.last with
  | .name name => do
    let i ← fs.child place.directory name
    if fs.isDirectory i then throw .isDirectory
    if place.slashed then throw .notDirectory
    pure (fs.leave place.directory name)
  | _ => throw .isDirectory

/-- Empties a directory and all below it. The number bounds how deep that is. -/
def clear (fs : FileSystem) (i : Inode) : Nat → FileSystem
  | 0 => fs
  | depth + 1 =>
    match fs.body? i with
    | some (.directory parent entries) =>
      let fs := entries.foldl (fun fs (_, below) => clear fs below depth) fs
      fs.setBody i (.directory parent [])
    | _ => fs

/-- Removes a directory and all below it. A link is removed itself; behind the name of a link with
a slash the directory is emptied, but its own name is not there to be removed. -/
def removeTree (cwd : Inode) (path : String) : Except Errno Unit × FileSystem :=
  match fs.resolve cwd path false with
  | .error e => (.error e, fs)
  | .ok i => match fs.body? i with
    | some (.link _) => match fs.removeFile cwd path with
      | .ok fs => (.ok (), fs)
      | .error e => (.error e, fs)
    | some (.directory ..) =>
      let cleared := fs.clear i fs.nodes.size
      match cleared.removeDirectory cwd path with
      | .ok fs => (.ok (), fs)
      | .error e => (.error e, cleared)
    | _ => (.error .notDirectory, fs)

/-- The name that is given up or taken by a renaming. -/
def renamePlace (cwd : Inode) (path : String) : Except Errno (Inode × String × Bool) := do
  let place ← fs.placeOf cwd path
  match place.last with
  | .name name => pure (place.directory, name, place.slashed)
  | _ => throw ⟨16⟩

/-- Renames a node. It takes the place of a node with the new name, if both are directories, the
other one empty, or neither is. -/
def rename (cwd : Inode) (old new : String) : Except Errno FileSystem := do
  let _ ← fs.placeOf cwd old
  let _ ← fs.placeOf cwd new
  let (oldDir, oldName, oldSlashed) ← fs.renamePlace cwd old
  let (newDir, newName, newSlashed) ← fs.renamePlace cwd new
  let i ← fs.child oldDir oldName
  if !fs.isDirectory i && (oldSlashed || newSlashed) then throw .notDirectory
  if fs.isDirectory i && fs.isWithin i newDir fs.nodes.size then throw .invalidArgument
  let moved : FileSystem := (fs.leave oldDir oldName).enter newDir newName i
  let moved := match fs.body? i with
    | some (.directory _ entries) =>
      { moved with nodes := moved.nodes.modify i fun n =>
          { n with body := .directory newDir entries } }
    | _ => moved
  match fs.child newDir newName with
  | .error e =>
    if e ≠ .notFound then throw e
    fs.checkAlive newDir
    pure moved
  | .ok target =>
    if target = i then pure fs
    else if fs.isDirectory i then match fs.body? target with
      | some (.directory _ []) => pure moved
      | some (.directory ..) => throw .notEmpty
      | _ => throw .notDirectory
    else if fs.isDirectory target then
      if fs.isWithin target oldDir fs.nodes.size then throw .notEmpty else throw .isDirectory
    else pure moved

/-- Changes what is known of a node. -/
def modifyNode (i : Inode) (f : Node → Node) : FileSystem :=
  let now := fs.moment
  { fs with nodes := fs.nodes.modify i fun n => { f n with changed := now } }

/-- Gives a node other permission bits. -/
def setMode (i : Inode) (mode : Nat) : FileSystem := fs.modifyNode i fun n => { n with mode }

/-- Gives a node to a user and to a group, as far as they are named. What is no directory is no
longer run in the name of its owner or its group. -/
def setOwner (i : Inode) (owner group : Option Nat) : FileSystem := fs.modifyNode i fun n =>
  let mode := if n.mode &&& 0o010 != 0 then n.mode &&& 0o1777 else n.mode &&& 0o3777
  { n with
    owner := owner.getD n.owner, group := group.getD n.group
    mode := if n.body matches .directory .. then n.mode else mode }

/-- Says when a node was looked at and when it was changed last, as far as that is known. -/
def setTimes (i : Inode) (accessed modified : Option Moment) : FileSystem :=
  fs.modifyNode i fun n =>
    { n with accessed := accessed.getD n.accessed, modified := modified.getD n.modified }

/-- Notes that the body of a node has been looked at. That is kept once after each change only. -/
def noteAccess (i : Inode) : FileSystem :=
  let now := fs.moment
  { fs with nodes := fs.nodes.modify i fun n =>
      if n.accessed ≤ n.modified || n.accessed ≤ n.changed then { n with accessed := now } else n }

end PipeShell.Host.FileSystem
