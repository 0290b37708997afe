import PipeShell.Limits
import PipeShell.Settings.Number

/-! # Settings

What the command line decides: the limits, the history file and whether there is a banner. The
arguments are read from the left; a flag with a value takes the next argument whatever it is. -/

namespace PipeShell

structure Settings where
  maxLine : Nat := 1000
  maxArgs : Nat := 100
  history : Option String := none
  noBanner : Bool := false
  deriving DecidableEq, Repr

namespace Settings

def limits (s : Settings) : Limits := ⟨s.maxLine, s.maxArgs⟩

inductive Flag where
  | maxLine | maxArgs | history | noBanner
  deriving DecidableEq, Repr

def Flag.all : List Flag := [.maxLine, .maxArgs, .history, .noBanner]

def Flag.name : Flag → String
  | maxLine => "--max-line"
  | maxArgs => "--max-args"
  | history => "--history"
  | noBanner => "--no-banner"

def Flag.ofName? (name : String) : Option Flag := Flag.all.find? (·.name == name)

/-- Why a flag does not take its value. -/
inductive ValueError where
  | duplicate
  | number (reason : NumberError)
  deriving DecidableEq, Repr

def ValueError.message : ValueError → String
  | duplicate => "duplicate values provided"
  | number reason => reason.message

/-- Why the arguments give no settings. -/
inductive Refusal where
  /-- The user asked for help. -/
  | help
  | unrecognized (argument : String)
  | noValue (flag : Flag)
  | badValue (flag : Flag) (value : String) (reason : ValueError)
  | afterHelp
  deriving DecidableEq, Repr

def usage : String :=
  "Usage: stsh [--max-line <max-line>] [--max-args <max-args>] [--history <history>] [--no-banner]

A minimal interactive shell with builtins and single-pipe pipelines.

Options:
  --max-line        longest accepted input line in characters; longer lines are
                    rejected
  --max-args        most tokens accepted per pipeline stage; larger stages are
                    rejected
  --history         file the recall history is loaded from and saved to
  --no-banner       do not print the welcome banner
  --help, help      display usage information
"

def Refusal.message : Refusal → String
  | help => usage
  | unrecognized argument => s!"Unrecognized argument: {argument}\n"
  | noValue flag => s!"No value provided for option '{flag.name}'.\n"
  | badValue flag value reason =>
    s!"Error parsing option '{flag.name}' with value '{value}': {reason.message}\n"
  | afterHelp => "Trailing arguments are not allowed after " ++ "\x60help\x60."

/-- The values given so far. -/
structure Given where
  maxLine : Option Nat := none
  maxArgs : Option Nat := none
  history : Option String := none
  noBanner : Bool := false
  deriving DecidableEq, Repr

namespace Given

/-- Defaults stand in for what was not given. -/
def settings (g : Given) : Settings :=
  let defaults : Settings := {}
  { maxLine := g.maxLine.getD defaults.maxLine
    maxArgs := g.maxArgs.getD defaults.maxArgs
    history := g.history
    noBanner := g.noBanner }

def readLimit (text : String) : Except ValueError Nat :=
  match readNumber text with
  | .ok n => .ok n
  | .error reason => .error (.number reason)

/-- Takes the value of a flag. A second value is refused before it is read. -/
def fill (g : Given) (value : String) : Flag → Except ValueError Given
  | .maxLine => do
    if g.maxLine.isSome then throw .duplicate
    return { g with maxLine := some (← readLimit value) }
  | .maxArgs => do
    if g.maxArgs.isSome then throw .duplicate
    return { g with maxArgs := some (← readLimit value) }
  | .history => do
    if g.history.isSome then throw .duplicate
    return { g with history := some value }
  | .noBanner => return { g with noBanner := true }

end Given

/-- The words that ask for help. -/
def asksForHelp (argument : String) : Bool := argument == "--help" || argument == "help"

/-- Reads the arguments that are left. `helping` says that help was asked for, `ended` that `--`
has ended the flags; nothing may follow it, since there are no other arguments. -/
def readFrom (g : Given) (helping ended : Bool) : List String → Except Refusal Settings
  | [] => if helping then .error .help else .ok g.settings
  | argument :: rest =>
    if !ended && asksForHelp argument then readFrom g true ended rest
    else if !ended && argument.startsWith "-" then
      if argument == "--" then readFrom g helping true rest
      else if helping then .error .afterHelp
      else match Flag.ofName? argument with
        | none => .error (.unrecognized argument)
        | some .noBanner => readFrom { g with noBanner := true } helping ended rest
        | some flag => match rest with
          | [] => .error (.noValue flag)
          | value :: rest => match g.fill value flag with
            | .error reason => .error (.badValue flag value reason)
            | .ok g => readFrom g helping ended rest
    else .error (.unrecognized argument)

/-- The settings that the arguments ask for. -/
def ofArgs (arguments : List String) : Except Refusal Settings := readFrom {} false false arguments

end Settings
end PipeShell
