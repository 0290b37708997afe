import PipeShell.Line.Stages
import PipeShell.Shell.Builtin

/-! # Plans

Planning decides what a line asks for. Both stages are measured against the limits before the
first of them is offered to the builtins, so a line that is refused has done nothing. -/

namespace PipeShell

/-- What is left to do for a line after the builtins have had their turn. -/
inductive Plan where
  | nothing
  | exit
  | launch (command : Command)
  deriving DecidableEq, Repr

def Plan.shown : Plan → String
  | nothing => "None"
  | exit => "Exit"
  | launch command => command.shown

/-- Why there is no plan. -/
inductive PlanError where
  | rejected (reason : Rejection)
  | io (error : IoError)
  deriving DecidableEq, Repr

def PlanError.message : PlanError → String
  | rejected reason => reason.message
  | io error => error.message

/-- What stays the same over a session. -/
structure Shell where
  user : String := ""
  limits : Limits := {}
  deriving DecidableEq, Repr

namespace Shell

/-- The tokens of the stages, the left one's first. -/
def tokenize (maxArgs : Nat) : Line.Stages → Except Rejection (Argv × Option Argv)
  | .single stage => do return (← Argv.ofStage stage maxArgs, none)
  | .piped left right => do
    let first ← Argv.ofStage left maxArgs
    let second ← Argv.ofStage right maxArgs
    return (first, some second)

/-- What remains of the stages once the first one turned out not to be a builtin. -/
def remaining (first : Argv) : Option Argv → Plan
  | none => .launch (.single first)
  | some second => if second.isEmpty then .nothing else .launch (.piped first second)

/-- Plans a line and runs its builtin. -/
def plan (shell : Shell) (line : String) : ExceptT PlanError Interaction Plan := do
  match shell.limits.checkLine line with
  | .error reason => throw (.rejected reason)
  | .ok () =>
    let stages := Line.Stages.ofLine line
    Interaction.note .interpreter .debug s!"piped: {stages.isPiped}"
    match tokenize shell.limits.maxArgs stages with
    | .error reason => throw (.rejected reason)
    | .ok (first, second) =>
      if first.isEmpty then return .nothing
      match ← (Builtin.dispatch shell.user first).run with
      | .error e => throw (.io e)
      | .ok .exit => return .exit
      | .ok .handled => return .nothing
      | .ok .notHandled => return remaining first second

end Shell
end PipeShell
