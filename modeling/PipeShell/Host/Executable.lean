import PipeShell.Host.Script.Interpreter
import PipeShell.Host.Tool.All

/-! # Executables

From a path to the program that is run for it. A file that begins with `#!` names an interpreter,
which is run with the file's path among its words; a file in no known format is left to the command
interpreter by those who look for programs. -/

namespace PipeShell.Host

/-- A program of the host and the words that it is given. -/
structure Image where
  program : String
  argv : List String

namespace Executable

/-- The system looks at no more of a file than this. -/
def headSize : Nat := 256

def isBlank (c : Char) : Bool := c == ' ' || c == '\t'

def isTerminator (c : Char) : Bool := isBlank c || c == '\x00'

def dropBlanksAtEnd (cs : List Char) : List Char := (cs.reverse.dropWhile isBlank).reverse

/-- The line that names an interpreter. In a head without a line break the name has to end before
the head does, so that it is not cut off. -/
def interpreterLine? (head : List Char) : Option (List Char) :=
  let text := head.takeWhile (· != '\x00')
  if text.contains '\n' then some (dropBlanksAtEnd (text.takeWhile (· != '\n')))
  else match head.dropWhile isBlank with
    | [] => none
    | name =>
      if name.any isTerminator then some (dropBlanksAtEnd (head.take (head.length - 1))) else none

/-- The interpreter of a file and the one argument that may follow it. -/
def interpreter? (content : ByteArray) : Option (String × Option String) :=
  let bytes := (ByteText.ofBytes (content.extract 0 headSize)).toList
  match bytes ++ List.replicate (headSize - bytes.length) '\x00' with
  | '#' :: '!' :: head => do
    let line ← interpreterLine? head
    let named := line.dropWhile isBlank
    if named.isEmpty then none
    let name := named.takeWhile (!isTerminator ·)
    let untilNul (cs : List Char) : String := String.ofList (cs.takeWhile (· != '\x00'))
    let argument := match named.drop name.length with
      | [] | '\x00' :: _ => none
      | rest => match rest.dropWhile isBlank with
        | [] => none
        | rest => some (untilNul rest)
    some (String.ofList name, argument)
  | _ => none

/-- A word or an entry of the environment is shorter than this many bytes. -/
def maxWord : Nat := 131071

/-- All words and entries together take at most so many bytes. -/
def maxWords : Nat := 2097152 - 4096

/-- Whether a program can be given these words and entries. Each ends with a byte of its own and is
pointed to by eight. -/
def fits (argv environment : List String) : Bool :=
  let all := argv ++ environment
  all.all (·.length ≤ maxWord) && all.foldl (fun n word => n + word.length + 9) 0 ≤ maxWords

section

variable (fs : FileSystem) (cwd : Inode) (fitting : Bool)

/-- What is run for a path. The number bounds how many interpreters are files themselves. -/
def imageAt (path : String) (argv : List String) : Nat → Except Errno Image
  | 0 => throw .linkLoop
  | depth + 1 => do
    let i ← fs.resolve cwd path true
    match fs.node? i with
    | some { body := .program name, .. } =>
      if fitting then pure { program := name, argv } else throw .tooManyWords
    | some { body := .file content, mode, .. } =>
      if mode &&& 0o111 == 0 then throw .accessDenied
      else if !fitting then throw .tooManyWords
      else match interpreter? content with
        | none => throw .execFormat
        | some (interpreter, argument) =>
          -- An interpreter without a name is looked for where the task stands.
          if interpreter.isEmpty then throw .accessDenied
          imageAt interpreter (interpreter :: argument.toList ++ path :: argv.drop 1) depth
    | _ => throw .accessDenied

/-- How many files may be looked at for one program. -/
def maxInterpreters : Nat := 6

def shellPath : String := "/bin/sh"

/-- What is run for a path by those who leave a file in no known format to the command
interpreter. -/
def imageOrScript (path : String) (argv : List String) : Except Errno Image :=
  match imageAt fs cwd fitting path argv maxInterpreters with
  | .error e =>
    if e = .execFormat then
      imageAt fs cwd fitting shellPath (shellPath :: path :: argv.drop 1) maxInterpreters
    else throw e
  | .ok image => pure image

/-- The first of several paths for which something can be run. One to which access is denied is
passed over but not forgotten. -/
def firstImage (reason : Errno) (argv : List String) : List String → Except Errno Image
  | [] => throw reason
  | path :: paths =>
    match imageOrScript fs cwd fitting path argv with
    | .ok image => pure image
    | .error e =>
      if e = .notFound || e = .notDirectory then firstImage reason argv paths
      else if e = .accessDenied then firstImage e argv paths
      else throw e

/-- Where programs are looked for when the environment does not say. -/
def defaultPath : String := "/bin:/usr/bin"

/-- What is run for a command: its first word is a path or is looked for. -/
def imageFor (path : Option String) (argv : List String) : Except Errno Image :=
  let name := argv.headD ""
  if name.isEmpty then throw .notFound
  else if name.toList.contains '/' then imageOrScript fs cwd fitting name argv
  else if FileSystem.maxName < name.length then throw .nameTooLong
  else
    let candidates := ((path.getD defaultPath).splitOn ":").map fun dir =>
      if dir.isEmpty then name else dir ++ "/" ++ name
    firstImage fs cwd fitting .notFound argv candidates

end

/-- The library that a program needs first. -/
def firstLibrary (program : String) : String :=
  if ["expr", "factor"].contains program then "libgmp.so.10"
  else if ["cp", "dir", "id", "install", "ls", "mkdir", "mkfifo", "mknod", "mv", "stat", "vdir"].contains
      program then "libselinux.so.1"
  else "libc.so.6"

/-- Gives up a program whose libraries cannot be opened. -/
def refuseStart (name program : String) : Act Nat := do
  let text := name ++ ": error while loading shared libraries: " ++ firstLibrary program ++
    ": cannot open shared object file: Error 24\n"
  let _ ← Act.write 2 (ByteText.toBytes text)
  return 127

/-- Runs an image to its end. -/
def runImage (exec : Act.Exec) (image : Image) (environment : List String) : Act Nat :=
  do
  let name := image.argv.headD ""
  if !(← Act.look fun w => (w.freeDescriptor 0).isOk) then return ← refuseStart name image.program
  match image.program with
  | "sh" | "dash" => Script.Interpreter.main exec image.argv environment
  | program =>
    match Tool.all.lookup program with
    | some tool =>
      Tool.run name environment (tool { name, operands := image.argv.drop 1, environment, exec })
    | none => return 127

/-- Replaces a task's image. The number bounds how often that happens to one task. -/
def exec : Nat → Act.Exec
  | 0, _, _, _ => return .tryAgain
  | depth + 1, path, argv, environment => do
    let fitting := fits argv environment
    match ← Act.files fun fs cwd => imageAt fs cwd fitting path argv maxInterpreters with
    | .error e => return e
    | .ok image => do
      Act.becomeImage
      let code ← runImage (exec depth) image environment
      Act.exit code

/-- Images are replaced less often than this. -/
def maxDepth : Nat := 1000000

end Executable

end PipeShell.Host
