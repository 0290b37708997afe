import PipeShell.Host.Tool.Basic

/-! # Files read as one

Bytes come from one file after the other. A file is opened when the one before has ended, and what
cannot be read is told and passed over. -/

namespace PipeShell.Host.Tool.Dump

structure Source where
  /-- The files that have not been opened. -/
  files : List String
  /-- The descriptor of the open file. -/
  fd : Option Nat := none
  /-- What stands in messages for the open file. -/
  title : Message := ""
  /-- What has been read and not been taken, from `start` on. -/
  buffer : ByteArray := .empty
  start : Nat := 0
  /-- Whether no more is read than is asked for. -/
  isExact : Bool := false
  hasFailed : Bool := false

namespace Source

/-- Opens the next file that can be opened. -/
def openNext (s : Source) : List String → Tool Source
  | [] => return { s with files := [], fd := none }
  | name :: files => do
    match ← openOperand name with
    | .ok fd =>
      let title : Message := if name == "-" then "standard input" else quoteName name
      return { s with files, fd := some fd, title, buffer := .empty, start := 0 }
    | .error e =>
      warnOf (quoteName name) e
      openNext { s with hasFailed := true } files

/-- Leaves the open file, and says why if it could not be read. -/
def leave (s : Source) (reason : Option Errno) : Tool Source := do
  if let some fd := s.fd then closeOperand fd
  let s := { s with fd := none, buffer := .empty, start := 0 }
  match reason with
  | none => return s
  | some e =>
    warnOf s.title e
    return { s with hasFailed := true }

/-- Takes so many bytes, or all that there are. The number bounds how many blocks they lie in. -/
def take (s : Source) (count : Nat) (taken : ByteArray) : Nat → Tool (ByteArray × Source)
  | 0 => return (taken, s)
  | fuel + 1 => do
    let here := s.buffer.extract s.start (s.start + count)
    let s := { s with start := s.start + here.size }
    let taken := if taken.isEmpty then here else taken ++ here
    let count := count - here.size
    if count == 0 then return (taken, s)
    match s.fd with
    | none => return (taken, s)
    | some fd =>
      let onward (reason : Option Errno) : Tool Source := do
        let s ← s.leave reason
        s.openNext s.files
      let s ← match ← act (Act.read fd (if s.isExact then count else Act.blockSize)) with
        | .error e => onward (some e)
        | .ok bytes =>
          if bytes.isEmpty then onward none else pure { s with buffer := bytes, start := 0 }
      s.take count taken fuel

/-- Takes one byte. -/
def next (s : Source) : Tool (Option UInt8 × Source) := do
  match s.buffer[s.start]? with
  | some b => return (some b, { s with start := s.start + 1 })
  | none =>
    let (bytes, s) ← s.take 1 .empty Act.manyReads
    return (bytes[0]?, s)

/-- Passes over so many bytes; gives how many of them there were not. In what is neither a regular
file nor a pipe there is any place. -/
def skip (s : Source) (count : Nat) : Nat → Tool (Nat × Source)
  | 0 => return (count, s)
  | fuel + 1 => do
    if count == 0 then return (0, s)
    match s.fd with
    | none => return (count, s)
    | some fd =>
      if (← regularAt? fd).isNone then
        if (← act (Act.seek fd 1 count)).isOk then return (0, s)
      match ← act (Act.read fd (min count Act.blockSize)) with
      | .error _ => return (0, s)
      | .ok bytes =>
        if bytes.isEmpty then
          let s ← s.leave none
          (← s.openNext s.files).skip count fuel
        else s.skip (count - bytes.size) fuel

end Source
end PipeShell.Host.Tool.Dump
