import PipeShell.Text.Utf8

/-! # History

The lines a user may recall, oldest first: at most a hundred, none empty, no two equal ones in a
row. A history file begins with a version line; after it each entry is one line, in which a
backslash is written twice and a line feed as `\n`. A file without the version line holds entries
as they stand. -/

namespace PipeShell.Editor

/-- Recorded lines, and how many of them the file does not have yet. -/
structure History where
  entries : List String := []
  unsaved : Nat := 0
  deriving DecidableEq, Repr

namespace History

def capacity : Nat := 100

/-- Records a line, at the cost of the oldest one when the history is full. -/
def add (h : History) (line : String) : History :=
  if line.isEmpty || h.entries.getLast? == some line then h
  else
    let kept := if capacity ≤ h.entries.length then h.entries.drop 1 else h.entries
    let entries := kept ++ [line]
    { entries, unsaved := min (h.unsaved + 1) entries.length }

/-! ## The file -/

def version : String := "#V2"

def escapeEntry : List Char → List Char
  | [] => []
  | '\\' :: cs => '\\' :: '\\' :: escapeEntry cs
  | '\n' :: cs => '\\' :: 'n' :: escapeEntry cs
  | c :: cs => c :: escapeEntry cs

/-- Undoes `escapeEntry`; nothing if the line holds an escape that it never writes. -/
def unescapeEntry : List Char → Option (List Char)
  | [] => some []
  | '\\' :: '\\' :: cs => (unescapeEntry cs).map ('\\' :: ·)
  | '\\' :: 'n' :: cs => (unescapeEntry cs).map ('\n' :: ·)
  | '\\' :: _ => none
  | c :: cs => (unescapeEntry cs).map (c :: ·)

theorem unescapeEntry_escapeEntry (cs : List Char) : unescapeEntry (escapeEntry cs) = some cs := by
  induction cs using escapeEntry.induct with
  | case1 => rfl
  | case2 cs ih => simp [escapeEntry, unescapeEntry, ih]
  | case3 cs ih => simp [escapeEntry, unescapeEntry, ih]
  | case4 c cs h₁ h₂ ih =>
    rw [escapeEntry, unescapeEntry] <;> simp_all

/-- What a file of these entries holds. -/
def encode (entries : List String) : String :=
  String.join ((version :: entries.map fun e => String.ofList (escapeEntry e.toList)).map (· ++ "\n"))

/-- Takes one line off the bytes. A carriage return before the line feed is dropped. -/
def takeLine (bytes : List UInt8) : List UInt8 × List UInt8 :=
  match bytes.span (· != 10) with
  | (line, 10 :: rest) => (if line.getLast? == some 13 then line.dropLast else line, rest)
  | (line, rest) => (line, rest)

/-- The lines of a file, up to one that is not text. The flag tells whether all are there. -/
def textLines (bytes : List UInt8) : Nat → List String × Bool
  | 0 => ([], true)
  | fuel + 1 =>
    if bytes.isEmpty then ([], true)
    else
      let (line, rest) := takeLine bytes
      match Text.ofUtf8? ⟨line.toArray⟩ with
      | none => ([], false)
      | some line =>
        let (lines, complete) := textLines rest fuel
        (line :: lines, complete)

/-- An entry as it stands in a file with a version line; a foreign escape is kept. -/
def decodeEntry (line : String) : String :=
  match unescapeEntry line.toList with
  | some cs => String.ofList cs
  | none => line

/-- The entries of a file's lines. -/
def entriesOfLines : List String → List String
  | [] => []
  | first :: rest => if first == version then rest.map decodeEntry else first :: rest

/-- The lines of a file with a version line in which there is a foreign escape. -/
def foreignLines : List String → List String
  | [] => []
  | first :: rest =>
    if first == version then rest.filter fun line => (unescapeEntry line.toList).isNone else []

/-- What reading a file has brought. -/
structure Loaded where
  history : History
  /-- The lines with a foreign escape. -/
  foreign : List String
  /-- Whether the file was read to its end. -/
  complete : Bool
  deriving DecidableEq, Repr

/-- Adds the entries of a file. After a failure those read so far are kept and count as unsaved. -/
def load (h : History) (bytes : ByteArray) : Loaded :=
  let (lines, complete) := textLines bytes.toList bytes.size
  let h := (entriesOfLines lines).foldl add h
  { history := if complete then { h with unsaved := 0 } else h
    foreign := foreignLines lines
    complete }

end History
end PipeShell.Editor
