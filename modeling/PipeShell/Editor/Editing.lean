import PipeShell.Input
import PipeShell.Log

/-! # Editing

The editor rests on a reader of lines, which attempts to read a line, keeps the lines that may be
recalled and writes them to a file. An `Editing` is what the editor has it do, as data: one call
after another, each with the continuation for every answer. -/

namespace PipeShell.Editor

/-- What the editor does until it has a value. -/
inductive Editing (α : Type) where
  | done (value : α)
  | attempt (prompt : String) (next : Except ReadError String → Editing α)
  /-- Adds a line to the history. -/
  | add (line : String) (next : Except ReadError Unit → Editing α)
  /-- Writes the history to a file. -/
  | save (file : String) (next : Except IoError Unit → Editing α)
  | log (record : Log.Record) (next : Editing α)

/-- A reader of lines that answers from a state. -/
structure LineReader (σ : Type) where
  attempt : String → σ → Except ReadError String × σ
  add : String → σ → Except ReadError Unit × σ
  save : String → σ → Except IoError Unit × σ
  log : Log.Record → σ → σ

/-- Makes all calls on a reader. -/
def Editing.run {α σ : Type} (reader : LineReader σ) : Editing α → σ → α × σ
  | done value, s => (value, s)
  | attempt prompt next, s =>
    let (answer, s) := reader.attempt prompt s
    (next answer).run reader s
  | add line next, s =>
    let (answer, s) := reader.add line s
    (next answer).run reader s
  | save file next, s =>
    let (answer, s) := reader.save file s
    (next answer).run reader s
  | log record next, s => next.run reader (reader.log record s)

end PipeShell.Editor
