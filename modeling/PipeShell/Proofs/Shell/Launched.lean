import PipeShell.Proofs.Launch.Ledger
import PipeShell.Proofs.Rehearsal
import PipeShell.Proofs.Shell.Reading
import PipeShell.Proofs.Shell.Stepping

/-! # What is launched

Every command that a run launches is what a line of that step calls for (`Stepping.called`), so it
is made of tokens of a line that kept the limits (`wellFormed_of_called`): it is well formed, and a
launcher that forks never finds it empty (`steps_launch_wellFormed`). -/

namespace PipeShell
open Line Interaction

namespace Command

/-- The text of a command: the tokens of each stage with single spaces between them, and a bar
between the stages. -/
def text (command : Command) : String := "|".intercalate (command.stages.map Argv.text)

/-- The vector that the shell has looked at for a builtin. -/
def first : Command → Argv
  | single argv => argv
  | piped producer _ => producer

/-- A command that a line within these limits can call for. -/
structure WellFormed (limits : Limits) (command : Command) : Prop where
  nonempty : ∀ argv ∈ command.stages, argv.tokens ≠ []
  tokens : ∀ argv ∈ command.stages, ∀ token ∈ argv.tokens, token ≠ "" ∧ ' ' ∉ token.toList
  few : ∀ argv ∈ command.stages, argv.tokens.length ≤ limits.maxArgs
  unpiped : ∀ token ∈ command.first.tokens, '|' ∉ token.toList
  foreign : ∀ name ∈ command.first.program, name ∉ ["cd", "exit", "help", "hello"]
  short : command.text.length ≤ limits.maxLine

end Command

namespace Shell

variable {shell : Shell} {line : String} {plan : Plan} {command : Command}
  {trace : List Exchange} {flow : Flow} {item : Item}

/-! ## Lines -/

/-- The program of a command is the first token of its line, and each stage of it is made of the
tokens of a part of the line. -/
theorem stages_of_called (h : shell.called line = .ok (.launch command)) :
    command.first = ⟨tokens (beforeBar line)⟩ ∧ (Reading.ofLine line).CallsProgram ∧
      ∀ argv ∈ command.stages, argv.tokens ≠ [] ∧ argv.tokens.length ≤ shell.limits.maxArgs ∧
        ∃ text, argv.tokens = tokens text := by
  obtain ⟨-, hfew, hplan⟩ := called_eq_ok_iff.mp h
  rw [Reading.Exceeds, not_or, Nat.not_lt] at hfew
  obtain ⟨hfirst, hsecond⟩ := hfew
  have hproducer : (Reading.ofLine line).CallsProgram →
      tokens (beforeBar line) ≠ [] ∧ (tokens (beforeBar line)).length ≤ shell.limits.maxArgs ∧
        ∃ text, tokens (beforeBar line) = tokens text := by
    rintro ⟨name, hname, -⟩
    refine ⟨fun hnil => ?_, hfirst, _, rfl⟩
    simp [Reading.ofLine, hnil] at hname
  cases command with
  | single argv =>
    obtain ⟨rfl, -, hcalls⟩ := Reading.plan_eq_single_iff.mp hplan
    exact ⟨rfl, hcalls, List.forall_mem_singleton.mpr (hproducer hcalls)⟩
  | piped left right =>
    obtain ⟨rfl, hright, hne, hcalls⟩ := Reading.plan_eq_piped_iff.mp hplan
    have hconsumer : right.tokens.length ≤ shell.limits.maxArgs :=
      Nat.not_lt.mp fun hmany => hsecond ⟨_, hright, hmany⟩
    obtain ⟨text, -, htext⟩ := Option.map_eq_some_iff.mp hright
    refine ⟨rfl, hcalls, ?_⟩
    simp only [Command.stages, List.forall_mem_cons]
    exact ⟨hproducer hcalls, ⟨hne, hconsumer, text, htext.symm⟩, List.forall_mem_nil _⟩

/-- The stages of what a line calls for have the tokens of the line, all of them. -/
theorem tokens_of_called (h : shell.called line = .ok (.launch command)) :
    command.stages.map Argv.tokens =
      tokens (beforeBar line) :: ((afterBar line).map tokens).toList := by
  obtain ⟨-, -, hplan⟩ := called_eq_ok_iff.mp h
  cases command with
  | single argv =>
    obtain ⟨rfl, hsecond, -⟩ := Reading.plan_eq_single_iff.mp hplan
    have hsecond : (afterBar line).map tokens = none := hsecond
    rw [hsecond]
    rfl
  | piped left right =>
    obtain ⟨rfl, hsecond, -⟩ := Reading.plan_eq_piped_iff.mp hplan
    have hsecond : (afterBar line).map tokens = some right.tokens := hsecond
    rw [hsecond]
    rfl

/-- The text of a command is no longer than the line that calls for it. -/
theorem length_text_of_called (h : shell.called line = .ok (.launch command)) :
    command.text.length ≤ line.length := by
  obtain ⟨-, -, hplan⟩ := called_eq_ok_iff.mp h
  cases command with
  | single argv =>
    obtain ⟨rfl, hsecond, -⟩ := Reading.plan_eq_single_iff.mp hplan
    have hline : beforeBar line = line.toList :=
      beforeBar_of_afterBar_eq_none (Option.map_eq_none_iff.mp hsecond)
    calc (Command.single ⟨tokens (beforeBar line)⟩).text.length
        = (" ".intercalate (tokens (beforeBar line))).length := by
          simp [Command.text, Command.stages, Argv.text]
      _ ≤ (beforeBar line).length := length_intercalate_tokens _
      _ = line.length := by rw [hline, String.length_toList]
  | piped left right =>
    obtain ⟨rfl, hright, -, -⟩ := Reading.plan_eq_piped_iff.mp hplan
    obtain ⟨text, hbar, htext⟩ := Option.map_eq_some_iff.mp hright
    have hfirst := length_intercalate_tokens (beforeBar line)
    have hsecond := length_intercalate_tokens text
    have hbetween : "|".length = 1 := rfl
    calc (Command.piped ⟨tokens (beforeBar line)⟩ right).text.length
        = (" ".intercalate (tokens (beforeBar line))).length + 1 +
            (" ".intercalate (tokens text)).length := by
          simp [Command.text, Command.stages, Argv.text, htext, hbetween]
      _ ≤ (beforeBar line).length + 1 + text.length := by omega
      _ = line.length := by
          rw [← String.length_toList (s := line), toList_of_afterBar hbar, List.length_append,
            List.length_cons]
          omega

/-- What a line calls for is well formed. -/
theorem wellFormed_of_called (h : shell.called line = .ok (.launch command)) :
    command.WellFormed shell.limits := by
  obtain ⟨hfirst, ⟨name, hname, hforeign⟩, hstages⟩ := stages_of_called h
  constructor
  · exact fun argv hargv => (hstages argv hargv).1
  · intro argv hargv token htoken
    obtain ⟨-, -, text, htext⟩ := hstages argv hargv
    obtain ⟨hne, hchars⟩ := mem_tokens (htext ▸ htoken)
    exact ⟨hne, fun hspace => (hchars ' ' hspace).2 rfl⟩
  · exact fun argv hargv => (hstages argv hargv).2.1
  · rw [hfirst]
    exact fun token htoken hbar => bar_not_mem_beforeBar line ((mem_tokens htoken).2 '|' hbar).1
  · rw [hfirst]
    intro name' hname'
    rw [Argv.program, ← List.head?_eq_getElem?] at hname'
    obtain rfl := Option.some.inj (hname.symm.trans hname')
    exact hforeign
  · exact Nat.le_trans (length_text_of_called h) (called_eq_ok_iff.mp h).1

/-! ## Steps -/

theorem CarryingOut.command_eq {result : Except IoError Flow} (h : CarryingOut plan trace result)
    (hlaunched : command ∈ launches trace) : plan = .launch command := by
  rcases h.asked.2 with hlaunches | ⟨hlaunches, -⟩
  · rw [hlaunches, Option.mem_toList] at hlaunched
    cases plan with
    | launch => rw [Option.some.inj hlaunched]
    | nothing | exit => cases hlaunched
  · rw [hlaunches] at hlaunched
    cases hlaunched

theorem Acting.called {result : Except IoError Flow} (h : Acting shell line trace result)
    (hlaunched : command ∈ launches trace) : shell.called line = .ok (.launch command) := by
  cases h with
  | blank => cases hlaunched
  | refused _ hplanning =>
    rw [launches_append, hplanning.silent.launches_eq_nil] at hlaunched
    cases hlaunched
  | planned _ hplanning hcarried =>
    rw [launches_append, hplanning.silent.launches_eq_nil, List.nil_append] at hlaunched
    obtain rfl := hcarried.command_eq hlaunched
    exact hplanning.planned.of_ok.1

/-- What a step launches, the line that it has read calls for. -/
theorem Trying.called {result : Except IoError Flow} (h : Trying shell trace result)
    (hlaunched : command ∈ launches trace) :
    ∃ line, reads trace = [.ok (.line line)] ∧ shell.called line = .ok (.launch command) := by
  cases h with
  | unshown hshowing =>
    rw [hshowing.silent.launches_eq_nil] at hlaunched
    cases hlaunched
  | @read shown item rest _ hshowing hresponding =>
    rw [launches_append, hshowing.silent.launches_eq_nil] at hlaunched
    have hrest : command ∈ launches rest := hlaunched
    rw [reads_append, hshowing.silent.reads_eq_nil]
    have hreads := hresponding.asked.1
    cases hresponding with
    | @line line _ _ hacting =>
      exact ⟨line, congrArg (List.cons _) hreads, hacting.called hrest⟩
    | interrupted | endOfInput | failed => cases hrest

theorem Stepping.called (h : Stepping shell trace flow) (hlaunched : command ∈ launches trace) :
    ∃ line, reads trace = [.ok (.line line)] ∧ shell.called line = .ok (.launch command) := by
  cases h with
  | went htrying => exact htrying.called hlaunched
  | @stopped told e htrying =>
    have hsilent : Silent [outputFailed e] := silent_cons.mpr ⟨rfl, silent_nil⟩
    rw [launches_append, hsilent.launches_eq_nil, List.append_nil] at hlaunched
    rw [reads_append, hsilent.reads_eq_nil, List.append_nil]
    exact htrying.called hlaunched

/-! ## Runs -/

/-- Only the empty vector is refused as empty. -/
theorem ofArgv_ne_emptyCommand {argv : Argv} (h : argv.tokens ≠ []) :
    Launch.Program.ofArgv argv ≠ .error .emptyCommand := by
  intro hrefused
  obtain ⟨tokens⟩ := argv
  cases tokens with
  | nil => exact (h rfl).elim
  | cons name rest =>
    simp only [Launch.Program.ofArgv, Argv.program, List.getElem?_cons_zero] at hrefused
    split at hrefused <;> cases hrefused

/-- A forked launch of stages that are not empty does not fail for an empty one. -/
theorem launch_ne_emptyCommand {output : Option Launch.Fd} {calls : List Launch.Call}
    {result : Except LaunchError (List Child)} (hstages : ∀ argv ∈ command.stages, argv.tokens ≠ [])
    (h : (Launch.launch output command).Makes calls (.done result)) :
    result ≠ .error .emptyCommand := by
  obtain ⟨l, -, -, -, houtcome⟩ := (Launch.launch_ensures output command).makes h
  rintro rfl
  cases houtcome with
  | refused hargv hrefused => exact ofArgv_ne_emptyCommand (hstages _ hargv) hrefused

/-- However the partners answer, every command that a run launches is well formed, and a launcher
that forks does not find it empty. -/
theorem steps_launch_wellFormed {turns : Nat} (h : (shell.steps turns).Holds trace flow) :
    ∀ command ∈ launches trace, command.WellFormed shell.limits ∧
      ∀ output calls result, (Launch.launch output command).Makes calls (.done result) →
        result ≠ .error .emptyCommand := by
  intro command hcommand
  obtain ⟨parts, hparts, rfl, -⟩ := holds_steps h
  obtain ⟨x, hx, hlaunch⟩ := List.mem_filterMap.mp hcommand
  obtain ⟨said, hsaid, hmem⟩ := List.mem_flatten.mp hx
  obtain ⟨value, hstepping⟩ := hparts.stepping said hsaid
  obtain ⟨line, -, hcalled⟩ := hstepping.called (List.mem_filterMap.mpr ⟨x, hmem, hlaunch⟩)
  have hwell := wellFormed_of_called hcalled
  exact ⟨hwell, fun _ _ _ => launch_ne_emptyCommand hwell.nonempty⟩

/-- A command that the launcher refuses, for a NUL in its second stage and not for an empty one. -/
theorem steps_launch_wellFormed_nul :
    let shell : Shell := { limits := { maxLine := 11, maxArgs := 2 } }
    let s : Rehearsal.Stage := { queue := [.ok (.line " ls  -l|\x00 |"), .ok (.line "exit")] }
    let said := (shell.steps 2).transcript Rehearsal.Stage.partners s
    let flow := ((shell.steps 2).run Rehearsal.Stage.partners s).1
    let command : Command := .piped ⟨["ls", "-l"]⟩ ⟨["\x00", "|"]⟩
    let result : Except LaunchError (List Child) := .error (.invalidArgument ⟨0⟩)
    (shell.steps 2).Holds said flow ∧ launches said = [command] ∧
      command.WellFormed shell.limits ∧ command.text.length = 9 ∧
      (Launch.launch none command).Makes [] (.done result) ∧ result ≠ .error .emptyCommand := by
  intro shell s said flow command result
  have hsaid : (shell.steps 2).Holds said flow := holds_transcript Rehearsal.Stage.partners _ s
  have hlaunches : launches said = [command] := by decide +kernel
  have hrefused : Launch.launch none command = .done result := by cbv
  obtain ⟨hwell, hlaunch⟩ :=
    steps_launch_wellFormed hsaid command (hlaunches ▸ List.mem_singleton_self _)
  have hmakes : (Launch.launch none command).Makes [] (.done result) := hrefused ▸ .refl
  exact ⟨hsaid, hlaunches, hwell, by decide +kernel, hmakes, hlaunch none [] result hmakes⟩

end Shell
end PipeShell
