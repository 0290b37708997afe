/-! # Readers

A reader takes what it recognises from the front of a text and hands back the rest. There are
four primitive ones and two ways to repeat or follow them, enough to take a command line apart. -/

namespace PipeShell.Line

/-- Recognises a prefix, or fails. -/
abbrev Reader (α : Type) := List Char → Option (α × List Char)

namespace Reader

variable {α β : Type}

/-- The longest prefix whose characters satisfy `p`. -/
def takeWhile (p : Char → Bool) : Reader (List Char) :=
  fun cs => some (cs.takeWhile p, cs.dropWhile p)

/-- Like `takeWhile`, but the prefix must not be empty. -/
def takeWhile1 (p : Char → Bool) : Reader (List Char) :=
  fun cs => match cs.takeWhile p with
    | [] => none
    | run => some (run, cs.dropWhile p)

/-- Exactly this character. -/
def char (c : Char) : Reader Char
  | [] => none
  | d :: ds => if d = c then some (c, ds) else none

/-- All that is left. -/
def rest : Reader (List Char) := fun cs => some (cs, [])

/-- First `before`, whose value is dropped, then `r`. -/
def after (before : Reader β) (r : Reader α) : Reader α :=
  fun cs => match before cs with
    | none => none
    | some (_, cs) => r cs

/-- First `r`, then `behind`, whose value is dropped. -/
def followed (r : Reader α) (behind : Reader β) : Reader α :=
  fun cs => match r cs with
    | none => none
    | some (a, cs) => match behind cs with
      | none => none
      | some (_, cs) => some (a, cs)

/-- `r` if it succeeds, else nothing is read. -/
def optional (r : Reader α) : Reader (Option α) :=
  fun cs => match r cs with
    | none => some (none, cs)
    | some (a, cs) => some (some a, cs)

/-- `r` as often as it succeeds. A success that reads nothing would repeat for ever, so it makes
the repetition fail. -/
def many (r : Reader α) (cs : List Char) : Option (List α × List Char) :=
  match r cs with
  | none => some ([], cs)
  | some (a, left) =>
    if left.length < cs.length then
      match many r left with
      | none => none
      | some (as, left) => some (a :: as, left)
    else none
termination_by cs.length

end Reader
end PipeShell.Line
