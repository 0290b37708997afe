import PipeShell.Proofs.Shell.Rendering

/-! # Wider limits

A line is rejected exactly if it exceeds a limit (`exists_rejected_iff`), and a line within the
limits is planned without a look at them (`plan_eq_of_accept`). So wider limits change nothing for
the lines that the narrower ones accept, and reject no other line than these do
(`plan_of_limits_le`). -/

namespace PipeShell

/-- The line keeps these limits, each stage of it too. -/
structure Limits.Accept (limits : Limits) (line : String) : Prop where
  short : line.length ≤ limits.maxLine
  few : ¬ (Reading.ofLine line).Exceeds limits.maxArgs

theorem Reading.Exceeds.mono {r : Reading} {few many : Nat} (h : r.Exceeds many)
    (hle : few ≤ many) : r.Exceeds few := by
  rcases h with hfirst | ⟨second, hsecond, hmany⟩
  · exact .inl (Nat.lt_of_le_of_lt hle hfirst)
  · exact .inr ⟨second, hsecond, Nat.lt_of_le_of_lt hle hmany⟩

theorem Limits.Accept.mono {limits limits' : Limits} {line : String} (h : limits.Accept line)
    (hline : limits.maxLine ≤ limits'.maxLine) (hargs : limits.maxArgs ≤ limits'.maxArgs) :
    limits'.Accept line where
  short := Nat.le_trans h.short hline
  few hmany := h.few (hmany.mono hargs)

namespace Shell
open Interaction Line

variable {user : String} {limits limits' : Limits} {line : String}

/-- A line is rejected for a limit that it exceeds, and for nothing else. -/
theorem exists_rejected_iff {shell : Shell} {trace : List Exchange}
    {outcome : Except PlanError Plan} (h : shell.Planned line trace outcome) :
    (∃ reason, outcome = .error (.rejected reason)) ↔ ¬ shell.limits.Accept line := by
  cases h with
  | tooLong hlong =>
    exact iff_of_true ⟨_, rfl⟩ fun haccept => absurd haccept.short (Nat.not_le.mpr hlong)
  | tooMany _ hmany => exact iff_of_true ⟨_, rfl⟩ fun haccept => haccept.few hmany
  | silent hshort hfew => exact iff_of_false nofun (not_not_intro ⟨hshort, hfew⟩)
  | @builtin b told result hshort hfew =>
    refine iff_of_false (fun ⟨reason, hreason⟩ => ?_) (not_not_intro ⟨hshort, hfew⟩)
    cases result <;> cases hreason

/-- Limits that accept the line say nothing more. -/
theorem plan_eq_of_accept (h : limits.Accept line) (h' : limits'.Accept line) :
    ({ user, limits } : Shell).plan line = ({ user, limits := limits' } : Shell).plan line := by
  have htokens : ∀ {limits : Limits}, limits.Accept line →
      limits.checkLine line = .ok () ∧ tokenize limits.maxArgs (.ofLine line) =
        .ok (⟨(Reading.ofLine line).first⟩, (Reading.ofLine line).second.map Argv.mk) := by
    intro limits haccept
    refine ⟨Limits.checkLine_eq_ok_iff.mpr haccept.short, ?_⟩
    rw [tokenize_ofLine, if_neg haccept.few]
  simp only [plan, htokens h, htokens h']

/-- Limits are monotone. What a line comes to that is not rejected, all that is said on the way and
the state that it leaves are the same under wider limits; what is rejected under these is rejected
under narrower ones; and under no limits a plan has lost a token of the stages that it launches. -/
theorem plan_of_limits_le {σ : Type} (partners : Surroundings σ) (user line : String)
    {narrow wide : Limits} (hline : narrow.maxLine ≤ wide.maxLine)
    (hargs : narrow.maxArgs ≤ wide.maxArgs) (s : σ) :
    let planning := fun limits => (({ user, limits } : Shell).plan line).run
    let outcome := fun limits => ((planning limits).run partners s).1
    ((∀ reason, outcome narrow ≠ .error (.rejected reason)) →
      (planning wide).run partners s = (planning narrow).run partners s ∧
        (planning wide).transcript partners s = (planning narrow).transcript partners s) ∧
    (∀ reason, outcome wide = .error (.rejected reason) →
      ∃ reason', outcome narrow = .error (.rejected reason')) ∧
    ∀ limits command, outcome limits = .ok (.launch command) →
      command.stages.map Argv.tokens =
        tokens (beforeBar line) :: ((afterBar line).map tokens).toList := by
  intro planning outcome
  have hrejected : ∀ limits, (∃ reason, outcome limits = .error (.rejected reason)) ↔
      ¬ limits.Accept line := fun limits =>
    exists_rejected_iff (Planning.of_holds (holds_transcript partners _ s)).planned
  refine ⟨fun haccepted => ?_, fun reason hreason => ?_, fun limits command hlaunch => ?_⟩
  · have hnarrow : narrow.Accept line := not_not.mp fun hno =>
      let ⟨reason, hreason⟩ := (hrejected narrow).mpr hno
      haccepted reason hreason
    have hsame : planning wide = planning narrow :=
      congrArg ExceptT.run (plan_eq_of_accept (hnarrow.mono hline hargs) hnarrow)
    rw [hsame]
    exact ⟨rfl, rfl⟩
  · refine (hrejected narrow).mpr fun hnarrow => ?_
    exact (hrejected wide).mp ⟨reason, hreason⟩ (hnarrow.mono hline hargs)
  · exact tokens_of_called ((plan_eq_launch_iff partners s).mp hlaunch)

/-- A line at both narrow limits, and one that the wide limits reject as well. -/
theorem plan_of_limits_le_tight :
    let narrow : Limits := { maxLine := 9, maxArgs := 2 }
    let wide : Limits := { maxLine := 10, maxArgs := 2 }
    let outcome := fun limits line =>
      (((({ limits } : Shell).plan line).run).run Rehearsal.Stage.partners {}).1
    outcome narrow "ls é|wc -" = .ok (.launch (.piped ⟨["ls", "é"]⟩ ⟨["wc", "-"]⟩)) ∧
      outcome wide "ls é|wc -" = .ok (.launch (.piped ⟨["ls", "é"]⟩ ⟨["wc", "-"]⟩)) ∧
      outcome wide "a|b c d" = .error (.rejected (.tooManyArguments 2)) ∧
      ∃ reason, outcome narrow "a|b c d" = .error (.rejected reason) := by
  intro narrow wide outcome
  have hcalled : ({ limits := narrow } : Shell).called "ls é|wc -" =
      .ok (.launch (.piped ⟨["ls", "é"]⟩ ⟨["wc", "-"]⟩)) := by decide +kernel
  have hnarrow : outcome narrow "ls é|wc -" =
      .ok (.launch (.piped ⟨["ls", "é"]⟩ ⟨["wc", "-"]⟩)) :=
    (plan_eq_launch_iff Rehearsal.Stage.partners {}).mpr hcalled
  have hmany : outcome wide "a|b c d" = .error (.rejected (.tooManyArguments 2)) := by
    have hcalled : ({ limits := wide } : Shell).called "a|b c d" =
        .error (.tooManyArguments 2) := by decide +kernel
    have hplanned := (Planning.of_holds (holds_transcript Rehearsal.Stage.partners
      (({ limits := wide } : Shell).plan "a|b c d").run {})).planned
    exact (hplanned.eq_called (Rehearsal.Stage.accepts rfl rfl _)).trans (by rw [hcalled]; rfl)
  have hwider : ∀ line, _ := fun line =>
    @plan_of_limits_le _ Rehearsal.Stage.partners "" line narrow wide (by decide) (by decide) {}
  obtain ⟨hsame, -, -⟩ := hwider "ls é|wc -"
  obtain ⟨-, hrejected, -⟩ := hwider "a|b c d"
  have hnever : ∀ reason, outcome narrow "ls é|wc -" ≠ .error (.rejected reason) := by
    rw [hnarrow]
    exact nofun
  exact ⟨hnarrow, (congrArg Prod.fst (hsame hnever).1).trans hnarrow, hmany, hrejected _ hmany⟩

end Shell
end PipeShell
