/-! # Log records -/

namespace PipeShell.Log

/-- How much a record matters, most first. -/
inductive Level where
  | error | warn | info | debug | trace
  deriving DecidableEq, Repr

namespace Level

def name : Level → String
  | error => "error"
  | warn => "warn"
  | info => "info"
  | debug => "debug"
  | trace => "trace"

/-- Higher numbers are more detailed. -/
def detail : Level → Nat
  | error => 1
  | warn => 2
  | info => 3
  | debug => 4
  | trace => 5

def ofName? (name : String) : Option Level :=
  [error, warn, info, debug, trace].find? (·.name == name)

end Level

/-- The part of the program that makes a record. -/
inductive Source where
  | program | interpreter | builtin | signal | launcher | input
  /-- The reader of lines, which makes records of its own. -/
  | lineReader
  deriving DecidableEq, Repr

/-- The name under which a source's records are shown and chosen. -/
def Source.name : Source → String
  | program => "stsh"
  | interpreter => "stsh::interpreter"
  | builtin => "stsh::builtin"
  | signal => "stsh::sig"
  | launcher => "stsh::execution"
  | input => "stsh::input"
  | lineReader => "rustyline"

structure Record where
  source : Source
  level : Level
  text : String
  deriving DecidableEq, Repr

/-- The records that are kept when `most` is the most detailed level asked for. -/
def upTo (most : Option Level) (records : List Record) : List Record :=
  match most with
  | none => []
  | some most => records.filter (·.level.detail ≤ most.detail)

end PipeShell.Log
