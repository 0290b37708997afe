import PipeShell.Line.Reader

/-! # Stages of a line

A line is one command, or two joined by a pipe. The first `|` divides them; a later one is text
of the second stage. -/

namespace PipeShell.Line

/-- The one or two stages of a line. -/
inductive Stages where
  | single (stage : String)
  | piped (left right : String)
  deriving DecidableEq, Repr

namespace Stages

def isPiped : Stages → Bool
  | single _ => false
  | piped _ _ => true

/-- The text before the first pipe and, if there is a pipe, the text after it. -/
def reader : Reader (List Char × Option (List Char)) := fun cs =>
  match Reader.takeWhile (· != '|') cs with
  | none => none
  | some (left, cs) => match (Reader.after (Reader.char '|') Reader.rest).optional cs with
    | none => none
    | some (right, cs) => some ((left, right), cs)

def ofLine (line : String) : Stages :=
  match reader line.toList with
  | some ((left, some right), _) => piped (String.ofList left) (String.ofList right)
  | _ => single line

end Stages
end PipeShell.Line
