import PipeShell.Proofs.Output.Discipline

/-! # Planning a line

All that planning can do (`Planning`): a line that is too long or has too many tokens in a stage is
rejected before anything is said to the output, and only then the first stage is dispatched. From
this: nothing is launched, what fails is the output of a builtin, and where there is no plan the
directory has not been changed. -/

namespace PipeShell

namespace Builtin
open Output Interaction

variable {trace : List Exchange} {e : IoError}

/-- Only a failed change of directory has anything to write. -/
theorem runCd_moves_eq_false {argv : Argv} (h : (runCd argv).run.Holds trace (.error e)) :
    ∀ x ∈ trace, x.moves = false := by
  unfold runCd at h
  split at h
  · obtain rfl := holds_writeLine.mp h
    exact List.forall_mem_singleton.mpr rfl
  · obtain ⟨answer, rest, rfl, hrest⟩ := holds_changeDir_bind.mp h
    cases answer with
    | ok => cases (holds_run_pure.mp hrest).2
    | error =>
      obtain rfl := holds_writeLine.mp hrest
      simp [Exchange.moves]

/-- A builtin whose output failed has not changed the directory. -/
theorem dispatch_moves_eq_false {user : String} {argv : Argv}
    (h : (dispatch user argv).run.Holds trace (.error e)) : ∀ x ∈ trace, x.moves = false := by
  have hreport : ∀ x : Exchange, x.isReport = true →
      (Discipline.only (·.moves = false)).Admits x := by
    intro x hx
    rw [Discipline.only_admits]
    cases x <;> first | rfl | cases hx
  have hline : ∀ text, (writeLine text).Obeys (.only (·.moves = false)) :=
    fun text => .writeLine fun _ => hreport _ rfl
  unfold dispatch at h
  cases hb : ofArgv? argv with
  | none =>
    rw [hb] at h
    cases (holds_run_pure.mp h).2
  | some b =>
    rw [hb] at h
    obtain ⟨rest, rfl, hrest⟩ := holds_note_bind.mp h
    refine List.forall_mem_cons.mpr ⟨rfl, ?_⟩
    cases b with
    | exit => exact (hline _).bind (fun _ => .pure _) _ _ hrest
    | cd =>
      rcases holds_run_bind.mp hrest with ⟨_, hcd, -⟩ | ⟨_, _, _, -, -, hdone⟩
      · exact runCd_moves_eq_false hcd
      · cases (holds_run_pure.mp hdone).2
    | help => exact (runHelp_obeys hreport).bind (fun _ => .pure _) _ _ hrest
    | hello => exact (hline _).bind (fun _ => .pure _) _ _ hrest

end Builtin

namespace Shell
open Interaction

/-- What is left to do for a line once its first stage has been dispatched. -/
def afterDispatch (first : Argv) (second : Option Argv) :
    Except IoError Builtin.Dispatch → Except PlanError Plan
  | .error e => .error (.io e)
  | .ok .exit => .ok .exit
  | .ok .handled => .ok .nothing
  | .ok .notHandled => .ok (remaining first second)

/-- The record that planning makes of the number of stages. -/
def stagesNoted (line : String) : Exchange :=
  .log ⟨.interpreter, .debug, s!"piped: {(Line.Stages.ofLine line).isPiped}"⟩

section
variable (shell : Shell) (line : String)

/-- The transcripts and outcomes of planning a line. -/
inductive Planning : List Exchange → Except PlanError Plan → Prop
  | tooLong {reason} : shell.limits.checkLine line = .error reason →
    Planning [] (.error (.rejected reason))
  | tooMany {reason} : shell.limits.checkLine line = .ok () →
    tokenize shell.limits.maxArgs (.ofLine line) = .error reason →
    Planning [stagesNoted line] (.error (.rejected reason))
  | empty {first second} : shell.limits.checkLine line = .ok () →
    tokenize shell.limits.maxArgs (.ofLine line) = .ok (first, second) → first.isEmpty = true →
    Planning [stagesNoted line] (.ok .nothing)
  | dispatched {first second trace result} : shell.limits.checkLine line = .ok () →
    tokenize shell.limits.maxArgs (.ofLine line) = .ok (first, second) → first.isEmpty = false →
    (Builtin.dispatch shell.user first).run.Holds trace result →
    Planning (stagesNoted line :: trace) (afterDispatch first second result)

end

variable {shell : Shell} {line : String} {trace : List Exchange} {result : Except PlanError Plan}

theorem Planning.of_holds (h : (shell.plan line).run.Holds trace result) :
    shell.Planning line trace result := by
  unfold plan at h
  cases hcheck : shell.limits.checkLine line with
  | error reason =>
    simp only [hcheck] at h
    obtain ⟨rfl, rfl⟩ := holds_run_throw.mp h
    exact .tooLong hcheck
  | ok =>
    simp only [hcheck] at h
    obtain ⟨t₁, t₂, _, rfl, hnote, hrest⟩ := holds_run_lift_bind.mp h
    obtain rfl := holds_note.mp hnote
    cases htokens : tokenize shell.limits.maxArgs (.ofLine line) with
    | error reason =>
      simp only [htokens] at hrest
      obtain ⟨rfl, rfl⟩ := holds_run_throw.mp hrest
      exact .tooMany hcheck htokens
    | ok stages =>
      obtain ⟨first, second⟩ := stages
      simp only [htokens] at hrest
      cases hempty : first.isEmpty with
      | true =>
        simp only [hempty, if_true] at hrest
        obtain ⟨rfl, rfl⟩ := holds_run_pure.mp hrest
        exact .empty hcheck htokens hempty
      | false =>
        simp only [hempty, Bool.false_eq_true, if_false] at hrest
        obtain ⟨t₁, t₂, answer, rfl, hdispatch, hafter⟩ := holds_run_lift_bind.mp hrest
        obtain ⟨rfl, rfl⟩ : t₂ = [] ∧ result = afterDispatch first second answer := by
          rcases answer with e | _ | _ | _
          · exact holds_run_throw.mp hafter
          all_goals exact holds_run_pure.mp hafter
        rw [List.append_nil]
        exact .dispatched hcheck htokens hempty hdispatch

/-- Each way of planning can come about. -/
theorem Planning.holds (h : shell.Planning line trace result) :
    (shell.plan line).run.Holds trace result := by
  unfold plan
  cases h with
  | tooLong hcheck =>
    simp only [hcheck]
    exact holds_run_throw.mpr ⟨rfl, rfl⟩
  | tooMany hcheck htokens =>
    simp only [hcheck, htokens]
    exact holds_run_lift_bind.mpr
      ⟨[_], [], (), rfl, holds_note.mpr rfl, holds_run_throw.mpr ⟨rfl, rfl⟩⟩
  | empty hcheck htokens hempty =>
    simp only [hcheck, htokens, hempty, if_true]
    exact holds_run_lift_bind.mpr
      ⟨[_], [], (), rfl, holds_note.mpr rfl, holds_run_pure.mpr ⟨rfl, rfl⟩⟩
  | @dispatched _ _ _ answer hcheck htokens hempty hdispatch =>
    simp only [hcheck, htokens, hempty, Bool.false_eq_true, if_false]
    refine holds_run_lift_bind.mpr ⟨[_], _, (), rfl, holds_note.mpr rfl, ?_⟩
    refine holds_run_lift_bind.mpr ⟨_, [], answer, (List.append_nil _).symm, hdispatch, ?_⟩
    rcases answer with e | _ | _ | _
    · exact holds_run_throw.mpr ⟨rfl, rfl⟩
    all_goals exact holds_run_pure.mpr ⟨rfl, rfl⟩

/-- The failure of the output that left a line without a plan. -/
def outputFailure : Except PlanError Plan → Option IoError
  | .error (.io e) => some e
  | _ => none

theorem outputFailure_afterDispatch (first : Argv) (second : Option Argv)
    (answer : Except IoError Builtin.Dispatch) :
    outputFailure (afterDispatch first second answer) = failureOf answer := by
  rcases answer with e | _ | _ | _ <;> rfl

namespace Planning

/-- The output fails only as the outcome says, and nothing is said after that. -/
theorem concludes (h : shell.Planning line trace result) :
    Concludes Exchange.failure trace (outputFailure result) := by
  cases h with
  | tooLong => exact unfailing_nil
  | tooMany | empty => exact concludes_singleton
  | dispatched _ _ _ hdispatch =>
    rw [outputFailure_afterDispatch]
    exact .cons rfl
      (Builtin.dispatch_obeys _ _ (fun x _ => Discipline.faithful_admits x) _ _ hdispatch)

/-- What holds of all that a builtin says, and of the records, holds throughout. -/
theorem forall_mem {P : Exchange → Prop} (h : shell.Planning line trace result)
    (hP : ∀ x : Exchange, x.isBuiltin = true → P x) : ∀ x ∈ trace, P x := by
  cases h with
  | tooLong => exact List.forall_mem_nil _
  | tooMany | empty => exact List.forall_mem_singleton.mpr (hP _ rfl)
  | dispatched _ _ _ hdispatch =>
    have hadmits : ∀ x : Exchange, x.isBuiltin = true → (Discipline.only P).Admits x :=
      fun x hx => Discipline.only_admits.mpr (hP x hx)
    exact List.forall_mem_cons.mpr ⟨hP _ rfl, Builtin.dispatch_obeys _ _ hadmits _ _ hdispatch⟩

theorem isLaunch_eq_false (h : shell.Planning line trace result) :
    ∀ x ∈ trace, x.isLaunch = false := by
  refine h.forall_mem fun x hx => ?_
  cases x <;> first | rfl | cases hx

/-- A rejected line has said nothing to the output. -/
theorem isOutput_eq_false {reason : Rejection}
    (h : shell.Planning line trace (.error (.rejected reason))) :
    ∀ x ∈ trace, x.isOutput = false := by
  generalize houtcome : Except.error (PlanError.rejected reason) = outcome at h
  cases h with
  | tooLong => exact List.forall_mem_nil _
  | tooMany => exact List.forall_mem_singleton.mpr rfl
  | empty => cases houtcome
  | @dispatched _ _ _ answer => rcases answer with e | _ | _ | _ <;> cases houtcome

/-- Without a plan the directory has not been changed. -/
theorem moves_eq_false {e : PlanError} (h : shell.Planning line trace (.error e)) :
    ∀ x ∈ trace, x.moves = false := by
  generalize houtcome : Except.error e = outcome at h
  cases h with
  | tooLong => exact List.forall_mem_nil _
  | tooMany | empty => exact List.forall_mem_singleton.mpr rfl
  | @dispatched _ _ _ answer _ _ _ hdispatch =>
    rcases answer with e | _ | _ | _
    · exact List.forall_mem_cons.mpr ⟨rfl, Builtin.dispatch_moves_eq_false hdispatch⟩
    all_goals cases houtcome

end Planning
end Shell
end PipeShell
