import PipeShell.Interaction

/-! # Builtin commands

Four commands run inside the shell. Only the first token of a stage is looked at, exactly and
case-sensitively; failures of a builtin are told to the user and still count as handled. -/

namespace PipeShell

inductive Builtin where
  | exit | cd | help | hello
  deriving DecidableEq, Repr

namespace Builtin

/-- In the order in which `help` lists them. -/
def all : List Builtin := [cd, exit, help, hello]

def name : Builtin → String
  | exit => "exit"
  | cd => "cd"
  | help => "help"
  | hello => "hello"

def ofName? (name : String) : Option Builtin := all.find? (·.name == name)

theorem ofName?_name (b : Builtin) : ofName? b.name = some b := by cases b <;> decide

/-- The builtin that a stage calls. -/
def ofArgv? (argv : Argv) : Option Builtin := argv.program.bind ofName?

/-- What became of a stage that was offered to the builtins. -/
inductive Dispatch where
  | handled | notHandled | exit
  deriving DecidableEq, Repr

/-- Changes to the directory named by the first operand; further operands are ignored. -/
def runCd (argv : Argv) : Output Unit :=
  match argv.arg 1 with
  | none => Output.writeLine "cd failed: missing directory operand"
  | some target => do
    match ← Output.changeDir target with
    | .ok () => pure ()
    | .error e => Output.writeLine s!"cd failed: {target}: {e.message}"

def runHelp : Output Unit := do
  Output.writeLine "\nAvailable commands:"
  for b in all do
    Output.writeLine s!" - {b.name}"

def runHello (user : String) : Output Unit :=
  Output.writeLine s!"\nHello, {user}! This is your custom shell."

def runExit : Output Unit := Output.writeLine "\nGoodbye!"

/-- Runs the builtin that `argv` calls, if it calls one. -/
def dispatch (user : String) (argv : Argv) : Output Dispatch := do
  match ofArgv? argv with
  | none => return .notHandled
  | some b =>
    Output.note .builtin .debug s!"builtin {b.name}"
    match b with
    | exit => runExit; return .exit
    | cd => runCd argv; return .handled
    | help => runHelp; return .handled
    | hello => runHello user; return .handled

end Builtin
end PipeShell
