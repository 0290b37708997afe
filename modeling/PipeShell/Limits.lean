/-! # Limits on a line

Bounds that a line must keep before anything of it is run. A line beyond them is refused whole,
never cut. -/

namespace PipeShell

/-- Caps on one input line. -/
structure Limits where
  /-- The most characters of a line. -/
  maxLine : Nat := 1000
  /-- The most tokens of a stage. -/
  maxArgs : Nat := 100
  deriving DecidableEq, Repr

/-- Why a line is refused. -/
inductive Rejection where
  | lineTooLong (limit : Nat)
  | tooManyArguments (limit : Nat)
  deriving DecidableEq, Repr

def Rejection.message : Rejection → String
  | lineTooLong limit => s!"line exceeds {limit} characters"
  | tooManyArguments limit => s!"more than {limit} arguments"

/-- Refuses a line of more characters than the limit. -/
def Limits.checkLine (limits : Limits) (line : String) : Except Rejection Unit :=
  if limits.maxLine < line.length then throw (.lineTooLong limits.maxLine) else pure ()

theorem Limits.checkLine_eq_ok_iff {limits : Limits} {line : String} :
    limits.checkLine line = .ok () ↔ line.length ≤ limits.maxLine := by
  unfold checkLine
  split <;> simp [throw, throwThe, MonadExceptOf.throw, pure, Except.pure] <;> omega

end PipeShell
