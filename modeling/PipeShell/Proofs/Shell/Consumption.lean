import PipeShell.Proofs.Rehearsal
import PipeShell.Proofs.Shell.Reading
import PipeShell.Proofs.Shell.Refusal
import PipeShell.Proofs.Shell.Stepping

/-! # What a run consumes

A run over an output that accepts it takes the items of its queue up to the first one that ends the
session, and launches what the lines before that one want launched, each once and in their order
(`steps_consume`). Which item ends the session and what a line wants launched is read off the items
themselves (`ends`, `wanted`); it is what planning comes to in the state in which the run has read
the item (`reached`). -/

namespace PipeShell
open Interaction Output

/-- The prompt with which an item was read. -/
def Exchange.prompt? : Exchange → Option String
  | readLine prompt _ => some prompt
  | _ => none

/-- The prompts, in order. -/
def prompts (trace : List Exchange) : List String := trace.filterMap Exchange.prompt?

@[simp] theorem prompts_append {trace₁ trace₂ : List Exchange} :
    prompts (trace₁ ++ trace₂) = prompts trace₁ ++ prompts trace₂ := List.filterMap_append

/-- There is no prompt without a read. -/
theorem prompts_eq_nil {trace : List Exchange} (h : reads trace = []) : prompts trace = [] := by
  refine List.filterMap_eq_nil_iff.mpr fun x hx => ?_
  have hitem := List.filterMap_eq_nil_iff.mp h x hx
  cases x with
  | readLine => cases hitem
  | _ => rfl

namespace Shell

section
variable (shell : Shell)

/-- The plan of an item. Only a line has one that is neither blank nor refused. -/
def planOf : Item → Option Plan
  | .ok (.line line) => if Text.allBlank line then none else (shell.called line).toOption
  | _ => none

/-- Whether the session is over with this item. -/
def ends : Item → Bool
  | .ok .endOfInput | .error _ => true
  | item => shell.planOf item == some .exit

/-- What an item wants launched. -/
def wanted (item : Item) : Option Command := (shell.planOf item).bind Plan.command?

/-- How a session stands after an item. -/
def flowAfter (item : Item) : Flow := if shell.ends item then .exit else .continue

end

variable {shell : Shell} {line : String} {plan : Plan} {command : Command} {item : Item}
  {trace : List Exchange} {flow : Flow}

/-- What ends a session launches nothing. -/
theorem wanted_of_ends (h : shell.ends item = true) : shell.wanted item = none := by
  rcases item with e | line | _ | _
  · rfl
  · rw [wanted, beq_iff_eq.mp h]
    rfl
  · rfl
  · rfl

theorem planOf_line (hblank : Text.allBlank line = false) :
    shell.planOf (.ok (.line line)) = (shell.called line).toOption := by
  simp [planOf, hblank]

/-- What wants something launched is a line that calls for it. -/
theorem called_of_wanted (h : shell.wanted item = some command) :
    ∃ line, item = .ok (.line line) ∧ Text.allBlank line = false ∧
      shell.called line = .ok (.launch command) := by
  rcases item with e | line | _ | _
  · cases h
  · cases hblank : Text.allBlank line with
    | true => simp [wanted, planOf, hblank] at h
    | false =>
      rw [wanted, planOf_line hblank] at h
      cases hcalled : shell.called line with
      | error reason =>
        rw [hcalled] at h
        cases h
      | ok plan =>
        rw [hcalled] at h
        obtain rfl : plan = .launch command := by
          cases plan with
          | launch => exact congrArg _ (Option.some.inj h)
          | nothing | exit => cases h
        exact ⟨line, rfl, hblank, hcalled⟩
  · cases h
  · cases h

/-! ## Accepted steps -/

theorem Showing.accepted {result : Except IoError Unit} (h : Showing trace result)
    (haccepted : Unfailing Exchange.failure trace) : result = .ok () := by
  cases h with
  | unwritten => simp [Exchange.failure] at haccepted
  | @written _ result =>
    cases result with
    | ok => rfl
    | error => simp [Exchange.failure] at haccepted

theorem Running.accepted {result : Except IoError Unit} (h : Running command trace result)
    (haccepted : Unfailing Exchange.failure trace) : result = .ok () := by
  cases h with
  | untold => simp [Exchange.failure] at haccepted
  | failed | finished => rfl

theorem CarryingOut.accepted {result : Except IoError Flow} (h : CarryingOut plan trace result)
    (haccepted : Unfailing Exchange.failure trace) :
    launches trace = plan.command?.toList ∧
      result = .ok (if plan = .exit then .exit else .continue) := by
  have hresult : result = .ok (if plan = .exit then .exit else .continue) := by
    cases h with
    | unflushed => simp [Exchange.failure] at haccepted
    | nothing | exit => rfl
    | launch hrunning =>
      rw [hrunning.accepted (unfailing_cons.mp (unfailing_cons.mp haccepted).2).2]
      rfl
  refine ⟨?_, hresult⟩
  rcases h.asked.2 with hlaunches | ⟨-, e, hfails⟩
  · exact hlaunches
  · rw [hresult] at hfails
    cases hfails

/-- Planning that is accepted comes to the plan that the line calls for. -/
theorem Planning.planOf_eq {outcome : Except PlanError Plan}
    (h : shell.Planning line trace outcome) (haccepted : Unfailing Exchange.failure trace)
    (hblank : Text.allBlank line = false) :
    shell.planOf (.ok (.line line)) = outcome.toOption := by
  rw [planOf_line hblank, h.planned.eq_called haccepted]
  cases shell.called line <;> rfl

theorem Acting.accepted {result : Except IoError Flow} (h : Acting shell line trace result)
    (haccepted : Unfailing Exchange.failure trace) :
    launches trace = (shell.wanted (.ok (.line line))).toList ∧
      result = .ok (shell.flowAfter (.ok (.line line))) := by
  cases h with
  | blank hblank => simp [wanted, flowAfter, ends, planOf, hblank, launches]
  | @refused told e answer hblank hplanning =>
    obtain ⟨htold, hrefusal⟩ := unfailing_append.mp haccepted
    have hplan : shell.planOf (.ok (.line line)) = none := hplanning.planOf_eq htold hblank
    have hanswer : answer = .ok () := by
      cases answer with
      | ok => rfl
      | error => simp [Exchange.failure] at hrefusal
    have hsaid : launches [lineRefused e, .write (refusal e) answer] = [] := rfl
    rw [launches_append, hplanning.silent.launches_eq_nil, hsaid, hanswer]
    simp [wanted, flowAfter, ends, hplan, Except.map]
  | @planned told plan rest result hblank hplanning hcarried =>
    obtain ⟨htold, hrest⟩ := unfailing_append.mp haccepted
    have hplan : shell.planOf (.ok (.line line)) = some plan := hplanning.planOf_eq htold hblank
    obtain ⟨hlaunches, hresult⟩ := hcarried.accepted hrest
    rw [launches_append, hplanning.silent.launches_eq_nil, hlaunches, hresult]
    simp [wanted, flowAfter, ends, hplan]

theorem Responding.accepted {result : Except IoError Flow} (h : Responding shell item trace result)
    (haccepted : Unfailing Exchange.failure trace) :
    launches trace = (shell.wanted item).toList ∧ result = .ok (shell.flowAfter item) := by
  cases h with
  | line hacting => exact hacting.accepted haccepted
  | @interrupted answer =>
    cases answer with
    | ok => exact ⟨rfl, rfl⟩
    | error => simp [Exchange.failure] at haccepted
  | endOfInput | failed => exact ⟨rfl, rfl⟩

/-- A step that is accepted shows the directory, reads an item and acts on it. -/
theorem Stepping.exists_responding (h : Stepping shell trace flow)
    (haccepted : Unfailing Exchange.failure trace) :
    ∃ shown item rest, trace = shown ++ .readLine prompt item :: rest ∧ Showing shown (.ok ()) ∧
      Responding shell item rest (.ok flow) := by
  cases h with
  | went htrying =>
    cases htrying with
    | read hshowing hresponding => exact ⟨_, _, _, rfl, hshowing, hresponding⟩
  | stopped htrying =>
    have htold := (unfailing_append.mp haccepted).1
    cases htrying with
    | unshown hshowing => cases hshowing.accepted htold
    | read _ hresponding =>
      have hrest := (unfailing_cons.mp (unfailing_append.mp htold).2).2
      cases (hresponding.accepted hrest).2

/-- A step that is accepted reads one item with one prompt, launches what the item wants launched,
and ends the session if the item does. -/
theorem Stepping.accepted (h : Stepping shell trace flow)
    (haccepted : Unfailing Exchange.failure trace) :
    ∃ item, reads trace = [item] ∧ prompts trace = [prompt] ∧
      launches trace = (shell.wanted item).toList ∧ flow = shell.flowAfter item := by
  obtain ⟨shown, item, rest, rfl, hshowing, hresponding⟩ := h.exists_responding haccepted
  obtain ⟨hlaunches, hflow⟩ :=
    hresponding.accepted (unfailing_cons.mp (unfailing_append.mp haccepted).2).2
  have hreads := hresponding.asked.1
  refine ⟨item, ?_, ?_, ?_, Except.ok.inj hflow⟩
  · rw [reads_append, hshowing.silent.reads_eq_nil]
    exact congrArg (List.cons item) hreads
  · rw [prompts_append, prompts_eq_nil hshowing.silent.reads_eq_nil]
    exact congrArg (List.cons prompt) (prompts_eq_nil hreads)
  · rw [launches_append, hshowing.silent.launches_eq_nil]
    exact hlaunches

/-! ## Accepted runs -/

/-- A step up to its read. -/
def reading : Output Item := do
  showDirectory
  Output.readLine prompt

theorem tryStep_eq (shell : Shell) : shell.tryStep = reading >>= shell.respond :=
  (LawfulMonad.bind_assoc showDirectory (fun _ => Output.readLine prompt) shell.respond).symm

section
variable {σ : Type} (partners : Surroundings σ) (shell : Shell)

/-- The state in which the item after so many steps has just been read. -/
def reached (steps : Nat) (s : σ) : σ :=
  (reading.run.run partners ((shell.steps steps).run partners s).2).2

end

section
variable {σ : Type} {partners : Surroundings σ} {queue : σ → List Item} {s : σ}

/-- What is read is the front of the queue. -/
theorem reading_run (hqueue : ReadsFrom partners queue)
    (haccepts : Accepts partners reading.run s) :
    (reading.run.run partners s).1 = .ok ((queue s).headD .atEnd) := by
  have hread := hqueue.reads_transcript reading.run s
  rcases holds_run_bind.mp (holds_transcript partners reading.run s) with
    ⟨e, hfails, -⟩ | ⟨shown, rest, _, hsaid, hshown, hline⟩
  · cases (Showing.of_holds hfails).accepted haccepts
  · obtain ⟨item, rfl, hitem⟩ := holds_readLine.mp hline
    have hitems : reads (reading.run.transcript partners s) = [item] := by
      rw [hsaid, reads_append, (Showing.of_holds hshown).silent.reads_eq_nil]
      rfl
    rw [hitems] at hread
    rw [hitem, List.cons.inj hread |>.1]

/-- A line that has been read is planned as it calls for. -/
theorem plan_of_accepts (hqueue : ReadsFrom partners queue)
    (haccepts : Accepts partners shell.step s)
    (hline : (queue s).headD .atEnd = .ok (.line line)) (hblank : Text.allBlank line = false) :
    ((shell.plan line).run.run partners (reading.run.run partners s).2).1 =
      (shell.called line).mapError .rejected := by
  have htry : Accepts partners (reading >>= shell.respond).run s := by
    rw [← tryStep_eq]
    exact (accepts_bind.mp haccepts).1
  rw [ExceptT.run_bind] at htry
  obtain ⟨hreading, hrespond⟩ := accepts_bind.mp htry
  rw [reading_run hqueue hreading, hline] at hrespond
  have hexecute : Accepts partners (shell.executeLine line).run (reading.run.run partners s).2 :=
    hrespond
  rw [executeLine_run hblank] at hexecute
  have hplanning := Planning.of_holds
    (holds_transcript partners (shell.plan line).run (reading.run.run partners s).2)
  exact hplanning.planned.eq_called (accepts_bind.mp hexecute).1

/-- A step takes the front of the queue and does what that asks for. -/
theorem step_consumes (hqueue : ReadsFrom partners queue)
    (haccepts : Accepts partners shell.step s) :
    (shell.step.run partners s).1 = shell.flowAfter ((queue s).headD .atEnd) ∧
      queue (shell.step.run partners s).2 = (queue s).tail ∧
      reads (shell.step.transcript partners s) = [(queue s).headD .atEnd] ∧
      prompts (shell.step.transcript partners s) = [prompt] ∧
      launches (shell.step.transcript partners s) =
        (shell.wanted ((queue s).headD .atEnd)).toList := by
  obtain ⟨item, hreads, hprompts, hlaunches, hflow⟩ :=
    (Stepping.of_holds (holds_transcript partners shell.step s)).accepted haccepts
  have hfront := hqueue.reads_transcript shell.step s
  rw [hreads] at hfront
  obtain rfl : item = (queue s).headD .atEnd := (List.cons.inj hfront).1
  refine ⟨hflow, ?_, hreads, hprompts, hlaunches⟩
  rw [run_eq_after, hqueue.queue_after, hreads, ← List.drop_one]
  rfl

/-- An accepted run begins with an accepted step. -/
theorem accepts_steps_succ {turns : Nat} (haccepts : Accepts partners (shell.steps (turns + 1)) s) :
    Accepts partners shell.step s ∧ ((shell.step.run partners s).1 = .continue →
      Accepts partners (shell.steps turns) (shell.step.run partners s).2) := by
  obtain ⟨hstep, hrest⟩ := accepts_bind.mp haccepts
  refine ⟨hstep, fun hflow => ?_⟩
  rwa [hflow] at hrest

/-- An item that does not end the session leaves the run with the rest of the queue. -/
theorem steps_goes_on (hqueue : ReadsFrom partners queue) {turns : Nat} {item : Item}
    {rest : List Item} (haccepts : Accepts partners (shell.steps (turns + 1)) s)
    (hitems : queue s = item :: rest) (hends : shell.ends item = false) :
    shell.step.run partners s = (.continue, (shell.step.run partners s).2) ∧
      queue (shell.step.run partners s).2 = rest ∧
      Accepts partners (shell.steps turns) (shell.step.run partners s).2 := by
  obtain ⟨hstep, hrest⟩ := accepts_steps_succ haccepts
  obtain ⟨hflow, htail, -⟩ := step_consumes hqueue hstep
  rw [hitems] at hflow htail
  have hcontinue : (shell.step.run partners s).1 = .continue := by
    rw [hflow, List.headD_cons, flowAfter, hends]
    rfl
  exact ⟨Prod.ext hcontinue rfl, htail, hrest hcontinue⟩

/-- A line is planned, in the state in which a run has read it, as it calls for. -/
theorem steps_plan (hqueue : ReadsFrom partners queue) {turns i : Nat}
    (haccepts : Accepts partners (shell.steps turns) s) (hturns : i < turns)
    (hi : i ≤ (queue s).findIdx shell.ends) (hline : (queue s)[i]? = some (.ok (.line line)))
    (hblank : Text.allBlank line = false) :
    ((shell.plan line).run.run partners (reached partners shell i s)).1 =
      (shell.called line).mapError .rejected := by
  induction i generalizing turns s with
  | zero =>
    obtain ⟨turns, rfl⟩ := Nat.exists_eq_succ_of_ne_zero (Nat.ne_of_gt hturns)
    have hfront : (queue s).headD .atEnd = .ok (.line line) := by
      rw [List.headD_eq_head?_getD, List.head?_eq_getElem?, hline]
      rfl
    exact plan_of_accepts hqueue (accepts_steps_succ haccepts).1 hfront hblank
  | succ i ih =>
    obtain ⟨turns, rfl⟩ := Nat.exists_eq_succ_of_ne_zero (Nat.ne_of_gt (Nat.zero_lt_of_lt hturns))
    cases hitems : queue s with
    | nil =>
      rw [hitems] at hline
      cases hline
    | cons item rest =>
      rw [hitems, List.findIdx_cons] at hi
      rw [hitems, List.getElem?_cons_succ] at hline
      cases hends : shell.ends item with
      | true => simp [hends] at hi
      | false =>
        obtain ⟨hflow, hrest, haccepts⟩ := steps_goes_on hqueue haccepts hitems hends
        have hreached : reached partners shell (i + 1) s =
            reached partners shell i (shell.step.run partners s).2 := by
          rw [reached, steps_run_of_continue hflow]
          rfl
        rw [hends, ← hrest] at hi
        rw [← hrest] at hline
        rw [hreached]
        exact ih haccepts (Nat.lt_of_succ_lt_succ hturns) (Nat.le_of_succ_le_succ hi) hline

/-- A run that ends with the item at this place of its queue. Behind the queue there is the end of
input. -/
structure Consumed (partners : Surroundings σ) (queue : σ → List Item) (shell : Shell)
    (turns : Nat) (s : σ) (last : Nat) : Prop where
  ended : ((shell.steps turns).run partners s).1 = .exit
  read : reads ((shell.steps turns).transcript partners s) =
    (queue s ++ [Item.atEnd]).take (last + 1)
  prompted : prompts ((shell.steps turns).transcript partners s) =
    List.replicate (last + 1) prompt
  left : queue ((shell.steps turns).run partners s).2 = (queue s).drop (last + 1)
  launched : launches ((shell.steps turns).transcript partners s) =
    ((queue s).take last).filterMap shell.wanted

/-- The item at the front ends the session. -/
theorem Consumed.of_ends (hqueue : ReadsFrom partners queue) {turns : Nat}
    (haccepts : Accepts partners (shell.steps (turns + 1)) s)
    (hends : shell.ends ((queue s).headD .atEnd) = true) :
    Consumed partners queue shell (turns + 1) s 0 := by
  obtain ⟨hstep, -⟩ := accepts_steps_succ haccepts
  obtain ⟨hflow, htail, hreads, hprompts, hlaunches⟩ := step_consumes hqueue hstep
  have hexit : shell.step.run partners s = (.exit, (shell.step.run partners s).2) :=
    Prod.ext (by rw [hflow, flowAfter, if_pos hends]) rfl
  have hrun := steps_run_of_exit hexit turns
  have hsaid := steps_transcript_of_exit hexit turns
  rw [wanted_of_ends hends] at hlaunches
  constructor
  · rw [hrun]
  · rw [hsaid, hreads]
    cases queue s <;> rfl
  · rw [hsaid, hprompts]
    rfl
  · rw [hrun, htail, List.drop_one]
  · rw [hsaid, hlaunches]
    rfl

/-- The item at the front does not end the session, and the rest of the run is consumed. -/
theorem Consumed.cons (hqueue : ReadsFrom partners queue) {turns last : Nat} {item : Item}
    {rest : List Item} (haccepts : Accepts partners (shell.steps (turns + 1)) s)
    (hitems : queue s = item :: rest) (hends : shell.ends item = false)
    (h : Consumed partners queue shell turns (shell.step.run partners s).2 last) :
    Consumed partners queue shell (turns + 1) s (last + 1) := by
  obtain ⟨hgoes, hrest, -⟩ := steps_goes_on hqueue haccepts hitems hends
  obtain ⟨-, -, hreads, hprompts, hlaunches⟩ :=
    step_consumes hqueue (accepts_steps_succ haccepts).1
  have hrun := steps_run_of_continue hgoes turns
  have hsaid := steps_transcript_of_continue hgoes turns
  have hread := h.read
  have hleft := h.left
  have hlaunched := h.launched
  rw [hrest] at hread hleft hlaunched
  rw [hitems, List.headD_cons] at hreads hlaunches
  constructor
  · rw [hrun, h.ended]
  · rw [hsaid, reads_append, hreads, hread, hitems]
    rfl
  · rw [hsaid, prompts_append, hprompts, h.prompted]
    rfl
  · rw [hrun, hleft, hitems]
    rfl
  · rw [hsaid, launches_append, hlaunches, hlaunched, hitems, List.take_succ_cons,
      List.filterMap_cons]
    cases shell.wanted item <;> rfl

theorem steps_consumed (hqueue : ReadsFrom partners queue) {turns : Nat}
    (haccepts : Accepts partners (shell.steps turns) s)
    (hturns : (queue s).findIdx shell.ends < turns) :
    Consumed partners queue shell turns s ((queue s).findIdx shell.ends) := by
  induction turns generalizing s with
  | zero => exact (Nat.not_lt_zero _ hturns).elim
  | succ turns ih =>
    cases hitems : queue s with
    | nil =>
      refine .of_ends hqueue haccepts ?_
      rw [hitems]
      rfl
    | cons item rest =>
      rw [hitems, List.findIdx_cons] at hturns
      rw [List.findIdx_cons]
      cases hends : shell.ends item with
      | true =>
        refine .of_ends hqueue haccepts ?_
        rw [hitems]
        exact hends
      | false =>
        obtain ⟨-, hrest, hgoes⟩ := steps_goes_on hqueue haccepts hitems hends
        rw [hends, cond_false, ← hrest] at hturns
        rw [cond_false, ← hrest]
        exact .cons hqueue haccepts hitems hends (ih hgoes (Nat.lt_of_succ_lt_succ hturns))

/-- A run takes the items of its queue up to the first that ends the session, each with one prompt,
and launches what the lines before that one want launched. A line is planned, in the state in which
it has been read, as it calls for. -/
theorem steps_consume (hqueue : ReadsFrom partners queue) (shell : Shell) {turns : Nat} (s : σ)
    (haccepts : Accepts partners (shell.steps turns) s)
    (hturns : (queue s).findIdx shell.ends < turns) :
    Consumed partners queue shell turns s ((queue s).findIdx shell.ends) ∧
      ∀ i ≤ (queue s).findIdx shell.ends, ∀ line, (queue s)[i]? = some (.ok (.line line)) →
        Text.allBlank line = false →
        ((shell.plan line).run.run partners (reached partners shell i s)).1 =
          (shell.called line).mapError .rejected :=
  ⟨steps_consumed hqueue haccepts hturns, fun _ hi _ hline hblank =>
    steps_plan hqueue haccepts (Nat.lt_of_le_of_lt hi hturns) hi hline hblank⟩

/-- A blank line, an interrupt and a line that is refused launch nothing; a launch that fails is
still one. -/
theorem steps_consume_exit :
    let shell : Shell := { limits := { maxArgs := 2 } }
    let s : Rehearsal.Stage :=
      { queue := [.ok (.line " \t"), .ok (.line "ls -l|wc"), .ok .interrupted, .ok (.line "a b c"),
          .ok (.line "exit"), .ok (.line "ls")],
        launcher := { failure := some .emptyCommand } }
    let session := (shell.steps 6).run Rehearsal.Stage.partners s
    let said := (shell.steps 6).transcript Rehearsal.Stage.partners s
    Accepts Rehearsal.Stage.partners (shell.steps 6) s ∧ s.queue.findIdx shell.ends = 4 ∧
      session.1 = .exit ∧ reads said = s.queue.take 5 ∧ session.2.queue = [.ok (.line "ls")] ∧
      launches said = [.piped ⟨["ls", "-l"]⟩ ⟨["wc"]⟩] := by
  intro shell s session said
  have haccepts : Accepts Rehearsal.Stage.partners (shell.steps 6) s :=
    Rehearsal.Stage.accepts rfl rfl _
  have hlast : s.queue.findIdx shell.ends = 4 := by decide +kernel
  have hwanted : (s.queue.take 4).filterMap shell.wanted = [.piped ⟨["ls", "-l"]⟩ ⟨["wc"]⟩] := by
    decide +kernel
  obtain ⟨h, -⟩ := steps_consume Rehearsal.Stage.readsFrom shell s haccepts
    (hlast ▸ by decide : s.queue.findIdx shell.ends < 6)
  rw [hlast] at h
  exact ⟨haccepts, hlast, h.ended, h.read, h.left, h.launched.trans hwanted⟩

end

end Shell
end PipeShell
