import PipeShell.Host.Script.Scope

/-! # What the name of a command stands for

A name stands for a function, a builtin, or a program in one of the directories of the path, in
this order. A name with a slash in it is a path itself. -/

namespace PipeShell.Host.Script

/-- A command that the interpreter runs itself. -/
structure Builtin where
  name : String
  /-- A mistake in a special one ends the script, and what is assigned in front of it stays. -/
  isSpecial : Bool := false
  /-- Its operands are expanded as assignments if they look like ones. -/
  assigns : Bool := false
  deriving Inhabited

namespace Builtin

def special : List String := [
  ".", ":", "break", "continue", "eval", "exec", "exit", "return", "set", "shift", "times", "trap",
  "unset"]

def regular : List String := [
  "[", "alias", "bg", "cd", "chdir", "command", "echo", "false", "fg", "getopts", "hash", "jobs",
  "kill", "printf", "pwd", "read", "test", "true", "type", "ulimit", "umask", "unalias", "wait"]

def all : List Builtin :=
  special.map ({ name := ·, isSpecial := true }) ++ regular.map ({ name := · }) ++
    ["export", "local", "readonly"].map ({ name := ·, isSpecial := true, assigns := true })

def ofName? (name : String) : Option Builtin := all.find? (·.name == name)

end Builtin

/-- What a command is. -/
inductive Found where
  | function (body : Command)
  | builtin (builtin : Builtin)
  /-- A program in this directory of the path, counted from 0. -/
  | program (directory : Nat)
  /-- The name is a path. -/
  | path
  | missing (reason : Errno)

namespace Lookup

/-- Where programs are looked for unless a script says otherwise. -/
def standardPath : String := "/usr/local/sbin:/usr/local/bin:/usr/sbin:/usr/bin:/sbin:/bin"

def isPath (name : String) : Bool := name.toList.contains '/'

/-- The path of a name in a directory of the path. -/
def join (directory name : String) : String :=
  if directory.isEmpty then name else directory ++ "/" ++ name

def candidates (path name : String) : List String := (path.splitOn ":").map (join · name)

/-- The first candidate that is a file with a permission to run it; else why there is none. -/
def search (fs : FileSystem) (cwd : Inode) : Nat → Errno → List String → Except Errno Nat
  | _, reason, [] => .error reason
  | n, reason, candidate :: rest => match fs.resolve cwd candidate true with
    | .error e =>
      search fs cwd (n + 1) (if e = .notFound || e = .notDirectory then reason else e) rest
    | .ok i =>
      let runs := match fs.node? i with
        | some { body := .file _, mode, .. } | some { body := .program _, mode, .. } =>
          mode &&& 0o111 != 0
        | _ => false
      if runs then .ok n else search fs cwd (n + 1) .accessDenied rest

/-- Where programs are looked for. -/
def path (s : Scope) : String := (s.value? "PATH").getD ""

/-- Remembers, or forgets, where a program was found. -/
def remember (name : String) (directory : Option Nat) : Sh Unit :=
  modify fun s => { s with
    found := s.found.filter (·.1 != name) ++ (directory.map (name, ·)).toList }

/-- What a name stands for. With another path than the usual one nothing is remembered. -/
def find (name : String) (functions : Bool) (otherPath : Option String) : Sh Found := do
  if isPath name then return .path
  let s ← get
  match if functions then s.functions.lookup name else none with
  | some f => return .function f
  | none => match Builtin.ofName? name with
    | some b => return .builtin b
    | none => match if otherPath.isNone then s.found.lookup name else none with
      | some n => return .program n
      | none =>
        let names := candidates (otherPath.getD (path s)) name
        match ← Sh.act (Act.files fun fs cwd => search fs cwd 0 .notFound names) with
        | .ok n =>
          if otherPath.isNone then remember name (some n)
          return .program n
        | .error e =>
          if otherPath.isNone then remember name none
          return .missing e

/-- Why a command cannot be run. -/
def reason (e : Errno) : String :=
  if e = .notFound || e = .notDirectory then "not found" else e.message

end Lookup
end PipeShell.Host.Script
