import PipeShell.Shell.Plan
import PipeShell.Signal
import PipeShell.Text.Blank

/-! # Steps

A step shows the directory, reads one item and acts on it. The output is flushed before every
read and every launch, so nothing the shell has to say is overtaken. Output that can no longer be
written ends the session, as the end of input does. -/

namespace PipeShell

/-- Whether the session goes on. -/
inductive Flow where
  | continue | exit
  deriving DecidableEq, Repr

namespace Shell

def prompt : String := ">>> "

/-- What is shown at the start of a session. -/
def banner (shell : Shell) : Output Unit := do
  Output.writeLine "\n************ WELCOME TO STSH ************"
  Output.writeLine "Use 'help' to see available commands, 'exit' to quit."
  Output.writeLine s!"User: @{shell.user}"
  Output.writeLine "*****************************************"

/-- The line above the prompt. -/
def showDirectory : Output Unit := do
  match ← Output.currentDir with
  | .ok directory => Output.writeLine s!"\nDir: {directory}"
  | .error e => Output.writeLine s!"\ncould not read current directory: {e.message}"
  Output.flush

/-- Launches a command and waits for it. A failed launch is told to the user. -/
def launch (command : Command) : Output Unit := do
  let before ← Output.interrupts
  match ← Output.launch command with
  | .ok children =>
    for child in children do
      Output.note .interpreter .debug s!"child {child.pid} finished with {child.shownStatus}"
  | .error e => Output.writeLine s!"stsh: launching failed: {e.message}"
  let after ← Output.interrupts
  if after != before then
    Output.note .interpreter .info s!"interrupted while waiting for {command.shown}"

/-- Refuses a line aloud. -/
def refuse (e : PlanError) : Output Flow := do
  Output.note .interpreter .warn s!"rejected line: {e.message}"
  Output.writeLine s!"stsh: {e.message}"
  return .continue

/-- Does what is left to do for a line. -/
def carryOut (plan : Plan) : Output Flow := do
  Output.note .interpreter .debug s!"plan {plan.shown}"
  Output.flush
  match plan with
  | .exit => return .exit
  | .nothing => return .continue
  | .launch command =>
    launch command
    return .continue

/-- Acts on one line. Blank lines ask for nothing; a line without a plan is refused. -/
def executeLine (shell : Shell) (line : String) : Output Flow := do
  if Text.allBlank line then return .continue
  match ← (shell.plan line).run with
  | .error e => refuse e
  | .ok plan => carryOut plan

/-- Acts on what was read. -/
def respond (shell : Shell) : Except ReadError Input → Output Flow
  | .ok (.line line) => shell.executeLine line
  | .ok .interrupted => do
    Output.writeLine interruptHint
    return .continue
  | .ok .endOfInput => do
    Output.note .interpreter .info "end of input"
    return .exit
  | .error e => do
    Output.note .interpreter .error e.message
    return .exit

/-- A step whose output failures are still open. -/
def tryStep (shell : Shell) : Output Flow := do
  showDirectory
  shell.respond (← Output.readLine prompt)

/-- Ends the session if the output has failed. -/
def conclude : Except IoError Flow → Interaction Flow
  | .ok flow => return flow
  | .error e => do
    Interaction.note .interpreter .error s!"writing output failed: {e.message}"
    return .exit

/-- One prompt and one item. -/
def step (shell : Shell) : Interaction Flow := do conclude (← shell.tryStep.run)

/-- Steps until the session ends, at most `turns` of them; `continue` if it has not ended then. -/
def steps (shell : Shell) : Nat → Interaction Flow
  | 0 => return .continue
  | turns + 1 => do
    match ← shell.step with
    | .continue => shell.steps turns
    | .exit => return .exit

end Shell
end PipeShell
