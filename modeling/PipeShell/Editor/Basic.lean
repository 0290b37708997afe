import PipeShell.Editor.Editing
import PipeShell.Editor.History
import PipeShell.Text.Blank

/-! # The line editor

An editor turns what one attempt to read a line has brought into an input item and adds every line
that is not blank to its history, before the line is acted on. The history may have a file, which is
read when the editor is opened and written when it is saved. -/

namespace PipeShell

structure Editor where
  history : Editor.History := {}
  /-- The history's file, if it has one. -/
  path : Option String := none
  deriving DecidableEq, Repr

namespace Editor

/-- What is said of a line of a history file with an escape that no editor writes. -/
def foreignEscape (line : String) : Log.Record :=
  ⟨.lineReader, .warn, "bad escaped line: " ++ line⟩

/-- An editor whose history is that of its file. A file that cannot be read is not missed. -/
def opened (path : Option String) (read : String → Except IoError ByteArray) :
    Editor × List Log.Record :=
  match path with
  | none => ({}, [])
  | some file =>
    let missing (e : String) : Log.Record := ⟨.input, .debug, s!"no history loaded from {file}: {e}"⟩
    match read file with
    | .error e => ({ path }, [missing e.message])
    | .ok bytes =>
      let loaded := ({} : History).load bytes
      let last : Log.Record :=
        if loaded.complete then ⟨.input, .debug, s!"loaded history from {file}"⟩
        else missing "stream did not contain valid UTF-8"
      ({ history := loaded.history, path }, loaded.foreign.map foreignEscape ++ [last])

/-- What has to be written where. Nothing is written if there is nothing new. -/
def toSave (editor : Editor) : Option (String × String) :=
  match editor.path with
  | none => none
  | some file =>
    if editor.history.unsaved = 0 then none
    else some (file, History.encode editor.history.entries)

/-- The editor once its file has everything. -/
def saved (editor : Editor) : Editor :=
  { editor with history := { editor.history with unsaved := 0 } }

def saveFailed (file : String) (e : IoError) : Log.Record :=
  ⟨.input, .warn, s!"saving history to {file} failed: {e.message}"⟩

/-- Saves the history, if it has a file. A failure is only noted. -/
def saveHistory (editor : Editor) : Editing Unit :=
  match editor.path with
  | none => .done ()
  | some file => .save file fun
    | .ok () => .done ()
    | .error e => .log (saveFailed file e) (.done ())

/-- The item for what an attempt to read has brought. A line that is not blank is added to the
history first. -/
def accepting : Except ReadError String → Editing (Except ReadError Input)
  | .ok line =>
    if Text.allBlank line then .done (.ok (.line line))
    else .add line fun
      | .ok () => .done (.ok (.line line))
      | .error e => .done (.error e)
  | .error .interrupted => .done (.ok .interrupted)
  | .error .endOfInput => .done (.ok .endOfInput)
  | .error e => .done (.error e)

def readLine (prompt : String) : Editing (Except ReadError Input) := .attempt prompt accepting

/-! ## A history in memory -/

def add (editor : Editor) (line : String) : Editor :=
  { editor with history := editor.history.add line }

/-- A reader with the history of the editor and nothing to read. -/
def memory : LineReader Editor where
  attempt _ editor := (.error .endOfInput, editor)
  add line editor := (.ok (), editor.add line)
  save _ editor := (.ok (), editor.saved)
  log _ editor := editor

/-- The item for what was typed, and the editor after it. -/
def accept (editor : Editor) (typed : Except ReadError String) : Except ReadError Input × Editor :=
  (accepting typed).run memory editor

end Editor
end PipeShell
