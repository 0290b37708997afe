import PipeShell.Proofs.Shell.OutputFailure
import PipeShell.Rehearsal

/-! # Lines without a plan

A line that cannot be planned runs nothing (`plan_error`): no program is launched and the directory
stays as it was, whatever went wrong and wherever in the line. If the line was rejected, planning
has not touched the output, and acting on the line offers it the refusal and nothing else. Blank
lines are not planned at all, so a blank line that is too long is passed over in silence. -/

namespace PipeShell.Shell
open Interaction Output

variable {σ δ : Type} {shell : Shell} {line : String}

/-- Acting on a line is planning it and going on from the outcome. -/
theorem executeLine_run (hblank : Text.allBlank line = false) :
    (shell.executeLine line).run = (shell.plan line).run >>= fun
      | .error e => (refuse e).run
      | .ok plan => (carryOut plan).run := by
  have hlift : (liftM (shell.plan line).run : Output (Except PlanError Plan)).run =
      Except.ok <$> (shell.plan line).run := ExceptT.run_lift _
  simp only [executeLine, hblank, Bool.false_eq_true, if_false, ExceptT.run_bind, hlift,
    bind_map_left]
  rfl

theorem executeLine_run_of_blank (hblank : Text.allBlank line = true) :
    (shell.executeLine line).run = pure (.ok .continue) := by
  simp [executeLine, hblank]

section
variable (partners : Surroundings σ) (s : σ)

theorem refuse_transcript (e : PlanError) :
    ∃ answer, (refuse e).run.transcript partners s = [lineRefused e, .write (refusal e) answer] ∧
      ((refuse e).run.run partners s).1 = answer.map fun _ => .continue :=
  holds_refuse.mp (holds_transcript partners _ s)

/-- What is said and how it ends when a line has no plan. -/
theorem executeLine_of_plan_error {e : PlanError} (hblank : Text.allBlank line = false)
    (h : ((shell.plan line).run.run partners s).1 = .error e) :
    ∃ answer, (shell.executeLine line).run.transcript partners s =
        (shell.plan line).run.transcript partners s ++
          [lineRefused e, .write (refusal e) answer] ∧
      ((shell.executeLine line).run.run partners s).1 = answer.map fun _ => .continue := by
  obtain ⟨answer, htranscript, hvalue⟩ :=
    refuse_transcript partners ((shell.plan line).run.run partners s).2 e
  refine ⟨answer, ?_, ?_⟩
  · rw [executeLine_run hblank, transcript_bind, h, htranscript]
  · rw [executeLine_run hblank]
    refine (congrArg Prod.fst (run_bind partners _ _ s)).trans ?_
    rw [h, hvalue]

end

/-- What acting on a rejected line says to the output, and how it ends: the refusal, unless the
line is blank. -/
def RefusedAloud (line : String) (reason : Rejection) (said : List Exchange)
    (result : Except IoError Flow) : Prop :=
  if Text.allBlank line then said = [] ∧ result = .ok .continue
  else ∃ answer, said = [.write (refusal (.rejected reason)) answer] ∧
    result = answer.map fun _ => .continue

/-- A line without a plan launches nothing and leaves the directory as it is. If it was rejected,
nothing but the refusal is said to the output. -/
theorem plan_error (partners : Surroundings σ) (s : σ) {e : PlanError}
    (h : ((shell.plan line).run.run partners s).1 = .error e) :
    (∀ (δ : Type) (directory : σ → δ), MovesOnly partners directory →
      directory ((shell.plan line).run.run partners s).2 = directory s ∧
      directory ((shell.executeLine line).run.run partners s).2 = directory s) ∧
    (∀ x ∈ (shell.executeLine line).run.transcript partners s, x.isLaunch = false) ∧
    ∀ reason, e = .rejected reason →
      (∀ x ∈ (shell.plan line).run.transcript partners s, x.isOutput = false) ∧
      RefusedAloud line reason
        (((shell.executeLine line).run.transcript partners s).filter (·.isOutput))
        ((shell.executeLine line).run.run partners s).1 := by
  have hplanning : shell.Planning line ((shell.plan line).run.transcript partners s) (.error e) :=
    .of_holds (h ▸ holds_transcript partners _ s)
  cases hblank : Text.allBlank line with
  | true =>
    rw [executeLine_run_of_blank hblank]
    refine ⟨fun δ directory hmoves => ⟨hmoves.run_eq _ s hplanning.moves_eq_false, rfl⟩, nofun, ?_⟩
    rintro reason rfl
    exact ⟨hplanning.isOutput_eq_false, by simp [RefusedAloud, hblank, pure, transcript]⟩
  | false =>
    obtain ⟨answer, htranscript, hvalue⟩ := executeLine_of_plan_error partners s hblank h
    rw [htranscript, hvalue]
    refine ⟨fun δ directory hmoves => ⟨hmoves.run_eq _ s hplanning.moves_eq_false, ?_⟩, ?_, ?_⟩
    · refine hmoves.run_eq _ s ?_
      rw [htranscript]
      exact List.forall_mem_append.mpr
        ⟨hplanning.moves_eq_false, by simp [Exchange.moves, lineRefused]⟩
    · exact List.forall_mem_append.mpr
        ⟨hplanning.isLaunch_eq_false, by simp [Exchange.isLaunch, lineRefused]⟩
    · rintro reason rfl
      have hsilent := hplanning.isOutput_eq_false
      refine ⟨hsilent, ?_⟩
      have hnone : ((shell.plan line).run.transcript partners s).filter (·.isOutput) = [] :=
        List.filter_eq_nil_iff.mpr fun x hx => by simp [hsilent x hx]
      rw [List.filter_append, hnone]
      simp only [RefusedAloud, hblank, Bool.false_eq_true, if_false]
      exact ⟨answer, rfl, rfl⟩

/-! ## Rehearsed lines -/

theorem movesOnly_directory : MovesOnly Rehearsal.Stage.partners (·.directory) where
  write _ _ := rfl
  flush _ := rfl
  readLine _ s := by
    cases hqueue : s.queue <;> simp [Rehearsal.Stage.partners, Rehearsal.Stage.readLine, hqueue]
  saveHistory _ := rfl
  currentDir _ := rfl
  changeDir target s e h := by
    cases hchange : s.directory.change target with
    | error => simp [Rehearsal.Stage.partners, hchange]
    | ok => simp [Rehearsal.Stage.partners, hchange] at h
  launch command s := by
    have hrepeat : ∀ n (s : Rehearsal.Stage),
        (Nat.repeat Rehearsal.Stage.interrupt n s).directory = s.directory := by
      intro n s
      induction n with
      | zero => rfl
      | succ n ih => exact ih
    simp only [Rehearsal.Stage.partners, Rehearsal.Stage.launch]
    split <;> exact hrepeat _ _
  interrupts _ := rfl
  log _ _ := rfl

/-- The first stage would change the directory; the second one has too many tokens. -/
theorem plan_error_second_stage :
    let shell : Shell := { limits := { maxArgs := 2 } }
    let s : Rehearsal.Stage := { directory := { existing := ["/tmp"] } }
    let acting := (shell.executeLine "cd /tmp | a b c").run
    ((shell.plan "cd /tmp | a b c").run.run Rehearsal.Stage.partners s).1 =
        .error (.rejected (.tooManyArguments 2)) ∧
      (acting.run Rehearsal.Stage.partners s).2.directory = s.directory ∧
      RefusedAloud "cd /tmp | a b c" (.tooManyArguments 2)
        ((acting.transcript Rehearsal.Stage.partners s).filter (·.isOutput))
        (acting.run Rehearsal.Stage.partners s).1 := by
  intro shell s acting
  have hfirst : Argv.ofStage "cd /tmp " 2 = .ok ⟨["cd", "/tmp"]⟩ := by cbv
  have hwords : Argv.words " a b c".toList = some ([['a'], ['b'], ['c']], []) := by cbv
  have hsecond : Argv.ofStage " a b c" 2 = .error (.tooManyArguments 2) := by
    unfold Argv.ofStage
    rw [hwords]
    rfl
  have hstages : Line.Stages.ofLine "cd /tmp | a b c" = .piped "cd /tmp " " a b c" := by
    decide +kernel
  have htokens : tokenize shell.limits.maxArgs (.ofLine "cd /tmp | a b c") =
      .error (.tooManyArguments 2) := by
    rw [hstages]
    simp only [tokenize, shell, hfirst, hsecond]
    rfl
  have h : ((shell.plan "cd /tmp | a b c").run.run Rehearsal.Stage.partners s).1 =
      .error (.rejected (.tooManyArguments 2)) := by
    simp only [plan, htokens]
    rfl
  obtain ⟨hdirectory, -, hsaid⟩ := plan_error Rehearsal.Stage.partners s h
  exact ⟨h, (hdirectory _ _ movesOnly_directory).2, (hsaid _ rfl).2⟩

/-- A blank line that is too long has no plan, and is not refused aloud. -/
theorem blank_not_refused :
    let shell : Shell := { limits := { maxLine := 2 } }
    ((shell.plan "   ").run.run Rehearsal.Stage.partners {}).1 =
        .error (.rejected (.lineTooLong 2)) ∧
      ∀ answer, ((shell.executeLine "   ").run.transcript Rehearsal.Stage.partners {}).filter
        (·.isOutput) ≠ [.write (refusal (.rejected (.lineTooLong 2))) answer] := by
  refine ⟨rfl, fun answer => ?_⟩
  rw [executeLine_run_of_blank (by decide)]
  exact (List.cons_ne_nil _ _).symm

end PipeShell.Shell
