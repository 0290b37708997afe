import PipeShell.Errno

/-! # File systems

Directories, files, symbolic links and devices, numbered by inodes. A directory knows its parent,
so a process may stay in one that no longer has a name. Names and paths are byte texts. -/

namespace PipeShell.Host

/-- The number of a node. -/
abbrev Inode := Nat

inductive Device where
  /-- Swallows what is written and has nothing to be read. -/
  | null
  /-- Has zeros without end to be read. -/
  | zero
  /-- As `zero`, but has no room for what is written. -/
  | full
  /-- Has bytes without end that nobody can tell in advance. -/
  | random
  /-- The terminal, which nothing on the host has. -/
  | terminal
  /-- What a descriptor of the process stands for. -/
  | descriptor (fd : Nat)
  /-- A device of blocks or of characters that nothing on the host stands behind. -/
  | absent (ofBlocks : Bool) (major minor : Nat)
  deriving DecidableEq, Repr

/-- Whether a device is one of blocks. -/
def Device.isBlocks : Device → Bool
  | .absent ofBlocks _ _ => ofBlocks
  | _ => false

/-- Devices of characters by their numbers. -/
def Device.ofNumbers (major minor : Nat) : Device :=
  match major, minor with
  | 1, 3 => .null
  | 1, 5 => .zero
  | 1, 7 => .full
  | 1, 8 | 1, 9 => .random
  | 5, 0 => .terminal
  | _, _ => .absent false major minor

inductive Body where
  | directory (parent : Inode) (entries : List (String × Inode))
  | file (content : ByteArray)
  | link (target : String)
  | device (device : Device)
  /-- A pipe with a name. -/
  | fifo (pipe : Nat)
  /-- An executable that the host provides, known by its name. -/
  | program (name : String)
  deriving Inhabited

/-- A number of nanoseconds since the beginning of 1970. -/
abbrev Moment := Int

/-- When hosts start, in microseconds since the beginning of 1970. -/
def startTime : Nat := 1750000000000000

/-- The moment after so many microseconds. -/
def Moment.ofMicroseconds (n : Nat) : Moment := n * 1000

structure Node where
  body : Body
  /-- The permission bits. -/
  mode : Nat := 0o644
  owner : Nat := 0
  group : Nat := 0
  /-- When the node was made. -/
  born : Moment := .ofMicroseconds startTime
  /-- When the body was looked at last. -/
  accessed : Moment := born
  /-- When the body was changed last. -/
  modified : Moment := born
  /-- When anything of the node was changed last. -/
  changed : Moment := born
  deriving Inhabited

structure FileSystem where
  nodes : Array Node
  /-- The time of the next change, in microseconds since the beginning of 1970. -/
  now : Nat := startTime

namespace FileSystem

def root : Inode := 0

/-- A root directory and nothing in it. -/
def empty : FileSystem := ⟨#[{ body := .directory root [], mode := 0o755 }], startTime⟩

variable (fs : FileSystem)

def node? (i : Inode) : Option Node := fs.nodes[i]?

def body? (i : Inode) : Option Body := (fs.node? i).map (·.body)

/-- The time of the next change as nodes keep it. -/
def moment : Moment := .ofMicroseconds fs.now

def setBody (i : Inode) (body : Body) : FileSystem :=
  let now := fs.moment
  { fs with nodes := fs.nodes.modify i fun n => { n with body, modified := now, changed := now } }

def isDirectory (i : Inode) : Bool :=
  match fs.body? i with
  | some (.directory ..) => true
  | _ => false

/-- The bytes of a regular file. -/
def fileContent? (i : Inode) : Option ByteArray :=
  match fs.body? i with
  | some (.file content) => some content
  | _ => none

/-! ## Paths -/

/-- Every path is shorter than this many bytes. -/
def maxPath : Nat := 4096

/-- The most bytes of a name. -/
def maxName : Nat := 255

/-- The most links that are followed on one way. -/
def maxLinks : Nat := 40

/-- The names along a path, without the slashes. -/
def namesOf (path : String) : List String := (path.splitOn "/").filter (· ≠ "")

/-- As `namesOf`; a slash at the end asks for a directory, as a last `.` does. -/
def components (path : String) : List String :=
  if path.endsWith "/" then namesOf path ++ ["."] else namesOf path

/-- The node with a name in a directory. -/
def child (dir : Inode) (name : String) : Except Errno Inode :=
  match fs.body? dir with
  | some (.directory parent entries) =>
    if maxName < name.length then throw .nameTooLong
    else if name == "." then pure dir
    else if name == ".." then pure parent
    else match entries.lookup name with
      | some i => pure i
      | none => throw .notFound
  | _ => throw .notDirectory

/-- Follows names from a directory. A link on the way is replaced by its target; one at the end is
only if `follow` says so. -/
def walk (follow : Bool) (links : Nat) (dir : Inode) (names : List String) :
    Except Errno Inode :=
  match names with
  | [] => pure dir
  | name :: names => do
    let i ← fs.child dir name
    match fs.body? i with
    | some (.link target) =>
      if names.isEmpty && !follow then pure i
      else match links with
        | 0 => throw .linkLoop
        | links + 1 =>
          walk follow links (if target.startsWith "/" then root else dir)
            (components target ++ names)
    | _ => walk follow links i names
termination_by (links, names.length)

/-- The path as system calls take it: not empty, not too long. -/
def checkPath (path : String) : Except Errno Unit :=
  if path.isEmpty then throw .notFound
  else if maxPath ≤ path.length then throw .nameTooLong
  else pure ()

/-- Where a path starts, seen from the directory `cwd`. -/
def startOf (cwd : Inode) (path : String) : Inode := if path.startsWith "/" then root else cwd

/-- The node that a path names. -/
def resolve (cwd : Inode) (path : String) (follow : Bool) : Except Errno Inode := do
  checkPath path
  fs.walk follow maxLinks (startOf cwd path) (components path)

/-- The directory that a path names. -/
def resolveDirectory (cwd : Inode) (path : String) : Except Errno Inode := do
  let i ← fs.resolve cwd path true
  if fs.isDirectory i then pure i else throw .notDirectory

/-- The last part of a path. -/
inductive Last where
  | name (name : String)
  | here
  | above
  | root
  deriving DecidableEq, Repr

/-- Where a path leads: a directory and what is named in it. -/
structure Place where
  directory : Inode
  last : Last
  /-- Whether slashes follow the name. -/
  slashed : Bool

/-- Where a path leads, whether or not something is there. -/
def placeOf (cwd : Inode) (path : String) : Except Errno Place := do
  checkPath path
  let names := namesOf path
  let dir ← fs.walk true maxLinks (startOf cwd path) names.dropLast
  if !fs.isDirectory dir then throw .notDirectory
  let last : Last := match names.getLast? with
    | none => .root
    | some "." => .here
    | some ".." => .above
    | some name => .name name
  pure { directory := dir, last, slashed := path.endsWith "/" }

/-- The directory and the name that a path comes to when a link at its end is followed. The number
bounds how many there are. -/
def finalPlace (cwd : Inode) (path : String) : Nat → Except Errno (Inode × String)
  | 0 => throw .linkLoop
  | links + 1 => do
    let place ← fs.placeOf cwd path
    match place.last with
    | .name name => match fs.body? (← fs.child place.directory name) with
      | some (.link target) => finalPlace place.directory target links
      | _ => pure (place.directory, name)
    | _ => throw .isDirectory

/-- The names from the root down to a directory; nothing if it has been removed. The number bounds
how far up the root can be. -/
def namesTo? (dir : Inode) : Nat → Option (List String)
  | 0 => none
  | height + 1 =>
    if dir = root then some []
    else match fs.body? dir with
      | some (.directory parent _) => match fs.body? parent with
        | some (.directory _ siblings) => do
          let (name, _) ← siblings.find? (·.2 == dir)
          let names ← namesTo? parent height
          some (names ++ [name])
        | _ => none
      | _ => none

/-- The full name of a directory. -/
def pathOf (dir : Inode) : Except Errno String :=
  match fs.namesTo? dir fs.nodes.size with
  | some names => pure ("/" ++ "/".intercalate names)
  | none => throw .notFound

/-- Whether a directory is `above` or lies somewhere below it. -/
def isWithin (above dir : Inode) : Nat → Bool
  | 0 => false
  | height + 1 =>
    if dir = above then true
    else match fs.body? dir with
      | some (.directory parent _) => if dir = parent then false else isWithin above parent height
      | _ => false

/-- The names in a directory, without those of itself and its parent. -/
def entries (dir : Inode) : List (String × Inode) :=
  match fs.body? dir with
  | some (.directory _ entries) => entries
  | _ => []

/-- How many names a node has. A directory has one in itself and one in each directory in it. -/
def linkCount (i : Inode) : Nat :=
  if fs.isDirectory i then 2 + ((fs.entries i).filter fun e => fs.isDirectory e.2).length
  else fs.nodes.foldl
    (fun count n => match n.body with
      | .directory _ entries => count + (entries.filter (·.2 == i)).length
      | _ => count)
    0

/-- The bytes of a file. -/
def contents (cwd : Inode) (path : String) : Except Errno ByteArray := do
  let i ← fs.resolve cwd path true
  match fs.body? i with
  | some (.file content) => pure content
  | some (.directory ..) => throw .isDirectory
  | _ => pure .empty

end FileSystem
end PipeShell.Host
