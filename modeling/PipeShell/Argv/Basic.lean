import PipeShell.Argv.CString
import PipeShell.Limits
import PipeShell.Line.Reader

/-! # Argument vectors

The tokens of one stage: the program's name first, then its arguments. Only the space character
separates tokens; tabs, quotes and other blanks are text. -/

namespace PipeShell

/-- Program name followed by its arguments. -/
structure Argv where
  tokens : List String
  deriving DecidableEq, Repr, Inhabited

namespace Argv

def isEmpty (argv : Argv) : Bool := argv.tokens.isEmpty

/-- The first token. -/
def program (argv : Argv) : Option String := argv.tokens[0]?

def arg (argv : Argv) (i : Nat) : Option String := argv.tokens[i]?

/-- The tokens joined by single spaces. -/
def text (argv : Argv) : String := " ".intercalate argv.tokens

/-- Each token as a C string, or the first NUL of the first token that holds one. -/
def cstrings (argv : Argv) : Except NulByte (List CString) := argv.tokens.mapM CString.ofString

/-! ## From a stage -/

open Line

/-- A run of spaces, maybe empty. -/
def spaces : Reader (List Char) := Reader.takeWhile (· == ' ')

/-- A token: a longest run of other characters, never empty. -/
def word : Reader (List Char) := Reader.takeWhile1 (· != ' ')

/-- All tokens of a stage with the spaces around them. -/
def words : Reader (List (List Char)) := Reader.after spaces (Reader.many (word.followed spaces))

/-- The tokens of a stage, unless there are more than `maxArgs`. -/
def ofStage (stage : String) (maxArgs : Nat) : Except Rejection Argv :=
  let tokens := match words stage.toList with
    | some (tokens, _) => tokens
    | none => []
  if maxArgs < tokens.length then throw (.tooManyArguments maxArgs)
  else pure ⟨tokens.map String.ofList⟩

end Argv
end PipeShell
