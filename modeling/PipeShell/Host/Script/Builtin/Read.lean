import PipeShell.Host.Script.Builtin.Variables
import PipeShell.Host.Script.Field

/-! # The builtin `read`

A line is read byte by byte, so that nothing behind it is taken. It is split at the separators into
as many fields as there are names. -/

namespace PipeShell.Host.Script.Builtin

/-- A line as far as it has been read. -/
structure Reading.Line where
  building : Building := {}
  /-- Where the part begins that may be split. -/
  start : Nat := 0

namespace Reading.Line

/-- Ends the part that may be split. -/
def close (l : Reading.Line) : Reading.Line :=
  { l with building := l.building.record l.start false, start := l.building.cells.size }

def add (c : Char) (l : Reading.Line) : Reading.Line :=
  { l with building := l.building.add (.char c false) }

/-- Adds a character that may not separate fields. -/
def addEscaped (c : Char) (l : Reading.Line) : Reading.Line :=
  let l := l.close.add c
  { l with start := l.building.cells.size }

end Reading.Line

def readByte : Sh (Option Char) := do
  match ← Sh.act (Act.read 0 1) with
  | .error _ => return none
  | .ok bytes => return (bytes.toList.head?).map fun b => Char.ofNat b.toNat

/-- Reads to the end of the line. False if there is no newline. The number bounds how long a line
is. -/
def readLineFrom (raw escaped : Bool) (l : Reading.Line) : Nat → Sh (Reading.Line × Bool)
  | 0 => return (l.close, false)
  | fuel + 1 => do
    match ← readByte with
    | none => return (l.close, false)
    | some '\x00' => readLineFrom raw escaped l fuel
    | some c =>
      if escaped then
        readLineFrom raw false (if c == '\n' then l.close else l.addEscaped c) fuel
      else if !raw && c == '\\' then readLineFrom raw true l fuel
      else if c == '\n' then return (l.close, true)
      else readLineFrom raw false (l.add c) fuel

def maxLine : Nat := 1000000000

def readLine (operands : List String) : Sh Nat := do
  let (given, names) ← options [('p', true), ('r', false)] operands
  if names.isEmpty then Sh.fail "arg count"
  let raw := given.any (·.1 == 'r')
  let (l, ended) ← readLineFrom raw false {} maxLine
  let separators := (← get).separators
  let fields := l.building.fields separators (some names.length)
  assignFields names (fields.map textOf)
  return if ended then 0 else 1
where
  /-- Names without a field get an empty text. -/
  assignFields : List String → List String → Sh Unit
    | [], _ => pure ()
    | name :: names, fields => do
      checkName name
      Sh.assign name (fields.headD "")
      assignFields names (fields.drop 1)

end PipeShell.Host.Script.Builtin
