import PipeShell.Launch.Basic

/-! # Programs ready to be executed

Everything a child needs between its creation and its new image is prepared before it is created,
so an argument vector that cannot be executed is refused before any system call. -/

namespace PipeShell.Launch

/-- The arguments as a null-terminated array of C strings, and what to say if the program cannot
be executed. -/
structure Program where
  pointers : List (Option CString)
  notFound : List UInt8

namespace Program

/-- Refuses the empty vector, then the first token that holds a NUL. -/
def ofArgv (argv : Argv) : Except LaunchError Program :=
  match argv.program with
  | none => throw .emptyCommand
  | some name => match argv.cstrings with
    | .error nul => throw (.invalidArgument nul)
    | .ok args => pure ⟨args.map some ++ [none], Text.utf8 s!"Command not found: {name}\n"⟩

/-- Reads an array of pointers up to its first null, each string up to its first NUL. -/
def readPointers : List (Option CString) → List (List UInt8)
  | [] | none :: _ => []
  | some s :: rest => CString.readMemory s.memory :: readPointers rest

/-- The argument list that the executed program sees. -/
def arguments (p : Program) : List (List UInt8) := readPointers p.pointers

end Program
end PipeShell.Launch
