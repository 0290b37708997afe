import PipeShell.Shell.Step

/-! # Sessions

A whole session: the banner, the steps, and the history saved at the end, however the end came. -/

namespace PipeShell.Shell

/-- Shows the banner. If that fails, only the log is told. -/
def tryBanner (shell : Shell) : Interaction Unit := do
  match ← shell.banner.run with
  | .ok () => pure ()
  | .error e => Interaction.note .program .warn s!"writing banner failed: {e.message}"

/-- A session of at most `turns` steps. -/
def session (shell : Shell) (showsBanner : Bool) (turns : Nat) : Interaction Unit := do
  if showsBanner then shell.tryBanner
  let _ ← shell.steps turns
  Interaction.saveHistory (Interaction.done ())
  Interaction.note .program .info "leaving"

end PipeShell.Shell
