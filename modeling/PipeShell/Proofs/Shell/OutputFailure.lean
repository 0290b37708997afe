import PipeShell.Proofs.Shell.Planning

/-! # Output that fails

A step whose output fails ends the session and has nothing more to say, unless the failure came
while a line was planned, that is, in a builtin (`tryStep_concludes`). There the failure is taken
for a reason to refuse the line: one more line is offered to the output, and if that is accepted,
the session goes on (`FailsInPlanning.outcome`). -/

namespace PipeShell.Shell
open Interaction Output Delivery

variable {shell : Shell} {trace rest : List Exchange} {flow : Flow} {e : IoError}

/-- The record of an output that failed. -/
def outputFailed (e : IoError) : Exchange :=
  .log ⟨.interpreter, .error, s!"writing output failed: {e.message}"⟩

/-- The record of a line that is refused. -/
def lineRefused (e : PlanError) : Exchange :=
  .log ⟨.interpreter, .warn, s!"rejected line: {e.message}"⟩

/-- What the output is told of a line that is refused. -/
def refusal (e : PlanError) : String := s!"stsh: {e.message}" ++ "\n"

/-- The session ends for its output: the last call on the output is the one that failed, and the
last record says so. -/
def EndsForOutput (trace : List Exchange) (calls : List Call) (flow : Flow) : Prop :=
  flow = .exit ∧ ∃ e, StopsWith Call.failure calls e ∧ trace.getLast? = some (outputFailed e)

/-- The output fails with `e` while a line is planned, and what follows is `rest`. -/
def FailsInPlanning (shell : Shell) (trace rest : List Exchange) (e : IoError) : Prop :=
  ∃ opening line told,
    trace = opening ++ .readLine prompt (.ok (.line line)) :: (told ++ rest) ∧
    showDirectory.run.Holds opening (.ok ()) ∧ Text.allBlank line = false ∧
    (shell.plan line).run.Holds told (.error (.io e))

/-! ## Lines -/

theorem holds_refuse {e : PlanError} {result : Except IoError Flow} :
    (refuse e).run.Holds trace result ↔
      ∃ answer, trace = [lineRefused e, .write (refusal e) answer] ∧
        result = answer.map fun _ => .continue := by
  unfold refuse
  constructor
  · intro h
    obtain ⟨rest, rfl, hrest⟩ := holds_note_bind.mp h
    rcases holds_run_bind.mp hrest with ⟨e, hwrite, rfl⟩ | ⟨t₁, t₂, _, rfl, hwrite, hdone⟩
    · obtain rfl := holds_writeLine.mp hwrite
      exact ⟨.error e, rfl, rfl⟩
    · obtain rfl := holds_writeLine.mp hwrite
      obtain ⟨rfl, rfl⟩ := holds_run_pure.mp hdone
      exact ⟨.ok (), rfl, rfl⟩
  · rintro ⟨answer, rfl, rfl⟩
    refine holds_note_bind.mpr ⟨_, rfl, ?_⟩
    cases answer with
    | error e => exact holds_run_bind.mpr (.inl ⟨e, holds_writeLine.mpr rfl, rfl⟩)
    | ok =>
      exact holds_run_bind.mpr (.inr ⟨[_], [], (), rfl, holds_writeLine.mpr rfl,
        holds_run_pure.mpr ⟨rfl, rfl⟩⟩)

theorem carryOut_faithful (plan : Plan) : (carryOut plan).Obeys .faithful := by
  have hadmits := Discipline.faithful_admits
  refine .bind (.note (hadmits _)) fun _ => .bind (.flush fun _ => hadmits _) fun _ => ?_
  cases plan with
  | nothing | exit => exact .pure _
  | launch command =>
    exact .bind (launch_obeys (fun _ => hadmits _) (fun _ => hadmits _) fun x _ => hadmits x)
      fun _ => .pure _

/-- Acting on a line says no more once the output has failed, unless it fails in planning. -/
theorem executeLine_concludes {line : String} {result : Except IoError Flow}
    (h : (shell.executeLine line).run.Holds trace result) :
    Concludes Exchange.failure trace (failureOf result) ∨
      ∃ told rest e, trace = told ++ rest ∧ Text.allBlank line = false ∧
        (shell.plan line).run.Holds told (.error (.io e)) := by
  unfold executeLine at h
  cases hblank : Text.allBlank line with
  | true =>
    simp only [hblank, if_true] at h
    exact .inl (Obeys.pure (D := .faithful) _ _ _ h)
  | false =>
    simp only [hblank, Bool.false_eq_true, if_false] at h
    obtain ⟨told, rest, outcome, rfl, hplan, hrest⟩ := holds_run_lift_bind.mp h
    have htold := (Planning.of_holds hplan).concludes
    rcases outcome with (reason | e) | plan
    · obtain ⟨answer, rfl, rfl⟩ := holds_refuse.mp hrest
      refine .inl (.append htold (.cons rfl ?_))
      cases answer <;> exact concludes_singleton
    · exact .inr ⟨told, rest, e, rfl, rfl, hplan⟩
    · exact .inl (.append htold (carryOut_faithful plan _ _ hrest))

/-! ## Steps -/

theorem tryStep_concludes {result : Except IoError Flow}
    (h : shell.tryStep.run.Holds trace result) :
    Concludes Exchange.failure trace (failureOf result) ∨
      ∃ rest e, shell.FailsInPlanning trace rest e := by
  have hadmits := Discipline.faithful_admits
  have hdirectory : showDirectory.Obeys .faithful :=
    showDirectory_obeys (fun _ => hadmits _) fun x _ => hadmits x
  rcases holds_run_bind.mp h with ⟨e, hfails, rfl⟩ | ⟨opening, _, _, rfl, hopening, hread⟩
  · exact .inl (hdirectory _ _ hfails)
  have hopened := hdirectory _ _ hopening
  obtain ⟨item, trace, rfl, hrespond⟩ := holds_readLine_bind.mp hread
  rcases item with e | line | _ | _
  · exact .inl (.append hopened (.cons rfl
      (Obeys.bind (.note (hadmits _)) (fun _ => .pure _) _ _ hrespond)))
  · rcases executeLine_concludes hrespond with hline | ⟨told, rest, e, rfl, hblank, hplan⟩
    · exact .inl (.append hopened (.cons rfl hline))
    · exact .inr ⟨rest, e, opening, line, told, rfl, hopening, hblank, hplan⟩
  · exact .inl (.append hopened (.cons rfl
      (Obeys.bind (.writeLine fun _ => hadmits _) (fun _ => .pure _) _ _ hrespond)))
  · exact .inl (.append hopened (.cons rfl
      (Obeys.bind (.note (hadmits _)) (fun _ => .pure _) _ _ hrespond)))

theorem holds_conclude {result : Except IoError Flow} :
    (conclude result).Holds trace flow ↔
      match result with
      | .ok value => trace = [] ∧ flow = value
      | .error e => trace = [outputFailed e] ∧ flow = .exit := by
  cases result with
  | ok value => exact holds_pure
  | error e =>
    refine holds_bind.trans ⟨?_, ?_⟩
    · rintro ⟨t₁, t₂, _, rfl, hnote, hexit⟩
      obtain rfl := Interaction.holds_note.mp hnote
      obtain ⟨rfl, rfl⟩ := holds_pure.mp hexit
      exact ⟨rfl, rfl⟩
    · rintro ⟨rfl, rfl⟩
      exact ⟨[_], [], (), rfl, Interaction.holds_note.mpr rfl, holds_pure.mpr ⟨rfl, rfl⟩⟩

namespace FailsInPlanning

/-- The step goes on by refusing the line. -/
theorem holds_rest (hfails : shell.FailsInPlanning trace rest e)
    (h : shell.step.Holds trace flow) :
    ((refuse (.io e)).run >>= conclude).Holds rest flow := by
  obtain ⟨opening, line, told, rfl, hopening, hblank, hplan⟩ := hfails
  simp only [step, tryStep, ExceptT.run_bind, LawfulMonad.bind_assoc] at h
  have hread := hopening.of_bind h
  simp only [LawfulMonad.bind_assoc] at hread
  have hasked : (Output.readLine prompt).run.Holds [.readLine prompt (.ok (.line line))]
      (.ok (.ok (.line line))) := holds_readLine.mpr ⟨_, rfl, rfl⟩
  have hrespond := hasked.of_bind hread
  simp only [respond, executeLine, hblank, Bool.false_eq_true, if_false, ExceptT.run_bind,
    LawfulMonad.bind_assoc] at hrespond
  have hplanned : (ExceptT.lift (shell.plan line).run : Output (Except PlanError Plan)).run.Holds
      told (.ok (.error (.io e))) := holds_run_lift.mpr ⟨_, hplan, rfl⟩
  exact hplanned.of_bind hrespond

/-- One more line is offered to the output. The session goes on if it is accepted. -/
theorem outcome (hfails : shell.FailsInPlanning trace rest e) (h : shell.step.Holds trace flow) :
    rest = [lineRefused (.io e), .write (refusal (.io e)) (.ok ())] ∧ flow = .continue ∨
      ∃ e', rest = [lineRefused (.io e), .write (refusal (.io e)) (.error e'), outputFailed e'] ∧
        flow = .exit := by
  obtain ⟨t₁, t₂, result, rfl, hrefuse, hend⟩ := holds_bind.mp (hfails.holds_rest h)
  obtain ⟨answer, rfl, rfl⟩ := holds_refuse.mp hrefuse
  cases answer with
  | ok =>
    obtain ⟨rfl, rfl⟩ := holds_conclude.mp hend
    exact .inl ⟨rfl, rfl⟩
  | error e' =>
    obtain ⟨rfl, rfl⟩ := holds_conclude.mp hend
    exact .inr ⟨e', rfl, rfl⟩

/-- Where the refusal is accepted, the session does go on. -/
theorem holds_continue (hfails : shell.FailsInPlanning trace rest e)
    (hrest : rest = [lineRefused (.io e), .write (refusal (.io e)) (.ok ())]) :
    shell.step.Holds trace .continue := by
  obtain ⟨opening, line, told, htrace, hopening, hblank, hplan⟩ := hfails
  refine holds_bind.mpr ⟨trace, [], .ok .continue, (List.append_nil _).symm, ?_,
    holds_pure.mpr ⟨rfl, rfl⟩⟩
  rw [htrace]
  refine holds_run_bind.mpr (.inr ⟨opening, _, (), rfl, hopening, ?_⟩)
  refine holds_readLine_bind.mpr ⟨_, _, rfl, ?_⟩
  simp only [respond, executeLine, hblank, Bool.false_eq_true, if_false]
  exact holds_run_lift_bind.mpr
    ⟨told, rest, _, rfl, hplan, holds_refuse.mpr ⟨.ok (), hrest, rfl⟩⟩

/-- What was said up to the failure. -/
theorem stopsWith (hfails : shell.FailsInPlanning trace rest e) :
    ∃ before, trace = before ++ rest ∧ StopsWith Exchange.failure before e := by
  obtain ⟨opening, line, told, rfl, hopening, -, hplan⟩ := hfails
  have hopened : Unfailing Exchange.failure opening :=
    showDirectory_obeys (D := .faithful) (fun _ => Discipline.faithful_admits _)
      (fun x _ => Discipline.faithful_admits x) _ _ hopening
  have htold := (Planning.of_holds hplan).concludes
  refine ⟨opening ++ .readLine prompt (.ok (.line line)) :: told, by simp, ?_⟩
  exact Concludes.append hopened (htold.cons rfl)

theorem append {more : List Exchange} (hfails : shell.FailsInPlanning trace rest e) :
    shell.FailsInPlanning (trace ++ more) (rest ++ more) e := by
  obtain ⟨opening, line, told, rfl, h⟩ := hfails
  exact ⟨opening, line, told, by simp, h⟩

/-- The output was called again after it had failed, or the session goes on. -/
theorem not_endsForOutput {calls : List Call} (hfails : shell.FailsInPlanning trace rest e)
    (h : shell.step.Holds trace flow) (hcalls : BehindAll trace calls) :
    ¬ EndsForOutput trace calls flow := by
  rintro ⟨hexit, e', hstops, -⟩
  rcases hfails.outcome h with ⟨-, hcontinue⟩ | ⟨_, hrest, -⟩
  · cases hexit.symm.trans hcontinue
  obtain ⟨before, rfl, hbefore⟩ := hfails.stopsWith
  obtain ⟨calls₁, calls₂, rfl, h₁, h₂⟩ := hcalls.append_inv
  have hnone : calls₂ = [] := (h₁.stopsWith hbefore).append_eq_nil hstops
  -- The refusal was offered to the output, which takes at least one call.
  rw [hrest] at h₂
  obtain _ | ⟨_, _ | ⟨hwrite, _⟩⟩ := h₂
  obtain ⟨c, hc, -⟩ := StopsWith.exists_mem hwrite.concludes
  simp [List.append_eq_nil_iff.mp (List.append_eq_nil_iff.mp hnone).2] at hc

end FailsInPlanning

/-- A step whose output fails ends the session for it if and only if the failure did not come in
planning. After one that did, the line is refused aloud, and the session goes on if that is
accepted. -/
theorem endsForOutput_iff {calls : List Call} (h : shell.step.Holds trace flow)
    (hcalls : BehindAll trace calls) (hfailed : ¬ Unfailing Call.failure calls) :
    (EndsForOutput trace calls flow ↔ ¬ ∃ rest e, shell.FailsInPlanning trace rest e) ∧
      ∀ rest e, shell.FailsInPlanning trace rest e →
        rest = [lineRefused (.io e), .write (refusal (.io e)) (.ok ())] ∧ flow = .continue ∨
        ∃ e', rest = [lineRefused (.io e), .write (refusal (.io e)) (.error e'), outputFailed e'] ∧
          flow = .exit := by
  refine ⟨⟨fun hends ⟨rest, e, hfails⟩ => hfails.not_endsForOutput h hcalls hends, ?_⟩,
    fun rest e hfails => hfails.outcome h⟩
  intro hplanned
  obtain ⟨t₁, t₂, result, rfl, htry, hend⟩ := holds_bind.mp h
  rcases tryStep_concludes htry with hconcludes | ⟨rest, e, hfails⟩
  · cases result with
    | ok value =>
      obtain ⟨rfl, rfl⟩ := holds_conclude.mp hend
      rw [List.append_nil] at hcalls
      exact (hfailed (hcalls.unfailing hconcludes)).elim
    | error e =>
      obtain ⟨rfl, rfl⟩ := holds_conclude.mp hend
      obtain ⟨calls₁, calls₂, rfl, h₁, h₂⟩ := hcalls.append_inv
      have hsilent : calls₂ = [] := h₂.eq_nil (List.forall_mem_singleton.mpr rfl)
      rw [hsilent, List.append_nil]
      exact ⟨rfl, e, h₁.concludes hconcludes, by simp⟩
  · exact (hplanned ⟨_, e, hfails.append⟩).elim

/-! A greeting that is not accepted, by an output that accepts the refusal. -/

section
open Text (utf8)

def lost : IoError := .other "reader went away"

def ungreeted : List Exchange := [
  .currentDir (.ok "/home"), .write "\nDir: /home\n" (.ok ()), .flush (.ok ()),
  .readLine prompt (.ok (.line "hello")),
  stagesNoted "hello", .log ⟨.builtin, .debug, "builtin hello"⟩,
  .write "\nHello, ada! This is your custom shell.\n" (.error lost),
  lineRefused (.io lost), .write (refusal (.io lost)) (.ok ())]

def ungreetedCalls : List Call := [
  .write (utf8 "\nDir: /home\n") (.accepted (utf8 "\nDir: /home\n").length), .flush (.ok ()),
  .write (utf8 "\nHello, ada! This is your custom shell.\n") (.failed lost),
  .write (utf8 (refusal (.io lost))) (.accepted (utf8 (refusal (.io lost))).length)]

theorem failsInPlanning_ungreeted :
    FailsInPlanning { user := "ada" } ungreeted (ungreeted.drop 7) lost := by
  have htokens : tokenize 100 (.ofLine "hello") = .ok (⟨["hello"]⟩, none) := by cbv
  have hdispatch : (Builtin.dispatch "ada" ⟨["hello"]⟩).run.Holds ((ungreeted.drop 5).take 2)
      (.error lost) := .step .log (.step (.write _) .refl)
  have hplan := @Planning.dispatched { user := "ada" } "hello" _ _ _ _ rfl htokens rfl hdispatch
  refine ⟨ungreeted.take 3, "hello", (ungreeted.drop 4).take 3, rfl, ?_, by decide, ?_⟩
  · exact .step (.currentDir _) (.step (.write _) (.step (.flush _) .refl))
  · exact hplan.holds

theorem holds_ungreeted : (step { user := "ada" }).Holds ungreeted .continue :=
  failsInPlanning_ungreeted.holds_continue rfl

theorem behindAll_ungreeted : BehindAll ungreeted ungreetedCalls := by
  have hshown := Behind.write_accepted (show utf8 "\nDir: /home\n" ≠ [] by decide +kernel)
  have hgreeting := Behind.write_failed (e := lost)
    (show utf8 "\nHello, ada! This is your custom shell.\n" ≠ [] by decide +kernel)
  have hrefusal := Behind.write_accepted (show utf8 (refusal (.io lost)) ≠ [] by decide +kernel)
  exact .cons (.other rfl) <| .cons hshown <| .cons .flush <| .cons (.other rfl) <|
    .cons (.other rfl) <| .cons (.other rfl) <| .cons hgreeting <| .cons (.other rfl) <|
    .cons hrefusal .nil

theorem not_unfailing_ungreetedCalls : ¬ Unfailing Call.failure ungreetedCalls := by
  intro h
  have hfailed : Call.write (utf8 "\nHello, ada! This is your custom shell.\n") (.failed lost) ∈
      ungreetedCalls := .tail _ (.tail _ (.head _))
  simpa [Call.failure] using h _ hfailed

/-- Not every step whose output fails ends the session for it. -/
theorem not_forall_endsForOutput : ¬ ∀ (shell : Shell) trace calls flow,
    shell.step.Holds trace flow → BehindAll trace calls → ¬ Unfailing Call.failure calls →
      EndsForOutput trace calls flow := by
  intro h
  have hends := h _ _ _ _ holds_ungreeted behindAll_ungreeted not_unfailing_ungreetedCalls
  cases hends.1

theorem endsForOutput_iff_ungreeted :
    (¬ EndsForOutput ungreeted ungreetedCalls .continue) ∧
      (step { user := "ada" }).Holds ungreeted .continue ∧
      BehindAll ungreeted ungreetedCalls ∧ ¬ Unfailing Call.failure ungreetedCalls := by
  refine ⟨fun hends => ?_, holds_ungreeted, behindAll_ungreeted, not_unfailing_ungreetedCalls⟩
  have hiff := endsForOutput_iff holds_ungreeted behindAll_ungreeted not_unfailing_ungreetedCalls
  exact hiff.1.mp hends ⟨_, _, failsInPlanning_ungreeted⟩

end

end PipeShell.Shell
