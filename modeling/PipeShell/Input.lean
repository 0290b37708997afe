import PipeShell.Errno

/-! # Input items

What one read from the user can bring: a line, an interrupt, the end of input, or a failure. -/

namespace PipeShell

/-- One item of input. -/
inductive Input where
  | line (text : String)
  | interrupted
  | endOfInput
  deriving DecidableEq, Repr

/-- Why a read failed. -/
inductive ReadError where
  | endOfInput
  | interrupted
  | resized
  | io (error : IoError)
  deriving DecidableEq, Repr

namespace ReadError

/-- The text of the cause alone. -/
def cause : ReadError → String
  | endOfInput => "EOF"
  | interrupted => "Interrupted"
  | resized => "WindowResized"
  | io error => error.message

def message (e : ReadError) : String := "reading input failed: " ++ e.cause

end ReadError
end PipeShell
