import PipeShell.Proofs.Partners
import PipeShell.Proofs.Shell.OutputFailure
import PipeShell.Proofs.Shell.Performing

/-! # What a step does

All transcripts and outcomes of one step, one constructor for each way it can go: the directory is
shown and the output flushed (`Showing`), an item is read and acted on (`Responding`), a line is
planned and its plan carried out (`Acting`, `CarryingOut`), a command is launched (`Running`). The
outcome of a step is `Stepping`; a run is one step after the other (`holds_steps`). -/

namespace PipeShell

/-- What a plan wants launched. -/
def Plan.command? : Plan → Option Command
  | launch command => some command
  | nothing | exit => none

namespace Shell
open Interaction Output

variable {shell : Shell} {line : String} {plan : Plan} {command : Command}
  {trace : List Exchange} {flow : Flow} {item : Except ReadError Input}

/-! ## What is said -/

/-- The line above the prompt. -/
def directoryLine : Except IoError String → String
  | .ok directory => s!"\nDir: {directory}"
  | .error e => s!"\ncould not read current directory: {e.message}"

def planNoted (plan : Plan) : Exchange := .log ⟨.interpreter, .debug, s!"plan {plan.shown}"⟩

def childNoted (child : Child) : Exchange :=
  .log ⟨.interpreter, .debug, s!"child {child.pid} finished with {child.shownStatus}"⟩

/-- What the user is told of a launch that failed. -/
def launchFailed (e : LaunchError) : String := s!"stsh: launching failed: {e.message}" ++ "\n"

def interruptionNoted (command : Command) : Exchange :=
  .log ⟨.interpreter, .info, s!"interrupted while waiting for {command.shown}"⟩

def endNoted : Exchange := .log ⟨.interpreter, .info, "end of input"⟩

def readFailureNoted (e : ReadError) : Exchange := .log ⟨.interpreter, .error, e.message⟩

/-! ## The parts of a step -/

/-- The directory is shown above the prompt. -/
inductive Showing : List Exchange → Except IoError Unit → Prop
  | unwritten {answer e} :
    Showing [.currentDir answer, .write (directoryLine answer ++ "\n") (.error e)] (.error e)
  | written {answer result} :
    Showing [.currentDir answer, .write (directoryLine answer ++ "\n") (.ok ()), .flush result]
      result

theorem Showing.of_holds {result : Except IoError Unit}
    (h : showDirectory.run.Holds trace result) : Showing trace result := by
  obtain ⟨answer, rest, rfl, hrest⟩ :=
    (holds_bind_of_ask .currentDir fun _ _ => holds_currentDir).mp h
  have hshown : (do writeLine (directoryLine answer); flush : Output Unit).run.Holds rest
      result := by
    cases answer <;> exact hrest
  rcases holds_run_bind.mp hshown with ⟨e, hwrite, rfl⟩ | ⟨t₁, t₂, _, rfl, hwrite, hflush⟩
  · obtain rfl := holds_writeLine.mp hwrite
    exact .unwritten
  · obtain rfl := holds_writeLine.mp hwrite
    obtain rfl := holds_flush.mp hflush
    exact .written

/-- A command is launched. Whatever the launcher says, only a failed write ends it early. -/
inductive Running (command : Command) : List Exchange → Except IoError Unit → Prop
  | untold {before e e'} :
    Running command
      [.interrupts before, .launch command (.error e), .write (launchFailed e) (.error e')]
      (.error e')
  | failed {before e after} :
    Running command
      (.interrupts before :: .launch command (.error e) :: .write (launchFailed e) (.ok ()) ::
        .interrupts after :: if after != before then [interruptionNoted command] else [])
      (.ok ())
  | finished {before children after} :
    Running command
      (.interrupts before :: .launch command (.ok children) :: (children.map childNoted ++
        .interrupts after :: if after != before then [interruptionNoted command] else []))
      (.ok ())

/-- The end of a launch: the interrupts are counted again. -/
theorem holds_interruption {before : UInt64} {result : Except IoError Unit}
    (h : (do
      let after ← interrupts
      if after != before then
        Output.note .interpreter .info s!"interrupted while waiting for {command.shown}"
        : Output Unit).run.Holds trace result) :
    ∃ after, trace = .interrupts after :: (if after != before then [interruptionNoted command]
      else []) ∧ result = .ok () := by
  obtain ⟨after, rest, rfl, hrest⟩ :=
    (holds_bind_of_ask .interrupts fun _ _ => holds_interrupts).mp h
  refine ⟨after, ?_⟩
  by_cases hcount : (after != before) = true
  · rw [if_pos hcount] at hrest ⊢
    obtain ⟨rfl, rfl⟩ := Output.holds_note.mp hrest
    exact ⟨rfl, rfl⟩
  · rw [if_neg hcount] at hrest ⊢
    obtain ⟨rfl, rfl⟩ := holds_run_pure.mp hrest
    exact ⟨rfl, rfl⟩

/-- Each child is told to the log. -/
theorem holds_children {children : List Child} {result : Except IoError PUnit}
    (h : (forIn children PUnit.unit fun (child : Child) _ => do
      Output.note .interpreter .debug s!"child {child.pid} finished with {child.shownStatus}"
      return ForInStep.yield PUnit.unit : Output PUnit).run.Holds trace result) :
    trace = children.map childNoted ∧ result = .ok () := by
  induction children generalizing trace with
  | nil => exact holds_run_pure.mp h
  | cons child children ih =>
    rw [List.forIn_cons, LawfulMonad.bind_assoc] at h
    obtain ⟨rest, rfl, hrest⟩ := holds_note_bind.mp h
    rw [LawfulMonad.pure_bind] at hrest
    obtain ⟨rfl, rfl⟩ := ih hrest
    exact ⟨rfl, rfl⟩

theorem Running.of_holds {result : Except IoError Unit}
    (h : (launch command).run.Holds trace result) : Running command trace result := by
  obtain ⟨before, rest, rfl, hlaunch⟩ :=
    (holds_bind_of_ask .interrupts fun _ _ => holds_interrupts).mp h
  obtain ⟨answer, rest, rfl, hrest⟩ :=
    (holds_bind_of_ask (.launch command) fun _ _ => holds_launch).mp hlaunch
  cases answer with
  | ok children =>
    rcases holds_run_bind.mp hrest with ⟨e, hnoted, rfl⟩ | ⟨t₁, t₂, _, rfl, hnoted, hend⟩
    · cases (holds_children hnoted).2
    · obtain ⟨rfl, -⟩ := holds_children hnoted
      obtain ⟨after, rfl, rfl⟩ := holds_interruption hend
      exact .finished
  | error e =>
    rcases holds_run_bind.mp hrest with ⟨e', hwrite, rfl⟩ | ⟨t₁, t₂, _, rfl, hwrite, hend⟩
    · obtain rfl := holds_writeLine.mp hwrite
      exact .untold
    · obtain rfl := holds_writeLine.mp hwrite
      obtain ⟨after, rfl, rfl⟩ := holds_interruption hend
      exact .failed

/-- A plan is carried out once the output is flushed. -/
inductive CarryingOut : Plan → List Exchange → Except IoError Flow → Prop
  | unflushed {plan e} : CarryingOut plan [planNoted plan, .flush (.error e)] (.error e)
  | nothing : CarryingOut .nothing [planNoted .nothing, .flush (.ok ())] (.ok .continue)
  | exit : CarryingOut .exit [planNoted .exit, .flush (.ok ())] (.ok .exit)
  | launch {command trace result} : Running command trace result →
    CarryingOut (.launch command) (planNoted (.launch command) :: .flush (.ok ()) :: trace)
      (result.map fun _ => .continue)

theorem CarryingOut.of_holds {result : Except IoError Flow}
    (h : (carryOut plan).run.Holds trace result) : CarryingOut plan trace result := by
  obtain ⟨rest, rfl, hrest⟩ := holds_note_bind.mp h
  rcases holds_run_bind.mp hrest with ⟨e, hflush, rfl⟩ | ⟨t₁, t₂, _, rfl, hflush, hplan⟩
  · obtain rfl := holds_flush.mp hflush
    exact .unflushed
  obtain rfl := holds_flush.mp hflush
  cases plan with
  | nothing =>
    obtain ⟨rfl, rfl⟩ := holds_run_pure.mp hplan
    exact .nothing
  | exit =>
    obtain ⟨rfl, rfl⟩ := holds_run_pure.mp hplan
    exact .exit
  | launch command =>
    obtain ⟨result, hlaunch, rfl⟩ := holds_run_bind_pure.mp hplan
    exact .launch (.of_holds hlaunch)

/-- A line is acted on. -/
inductive Acting (shell : Shell) (line : String) : List Exchange → Except IoError Flow → Prop
  | blank : Text.allBlank line = true → Acting shell line [] (.ok .continue)
  | refused {told e answer} : Text.allBlank line = false → shell.Planning line told (.error e) →
    Acting shell line (told ++ [lineRefused e, .write (refusal e) answer])
      (answer.map fun _ => .continue)
  | planned {told plan trace result} : Text.allBlank line = false →
    shell.Planning line told (.ok plan) → CarryingOut plan trace result →
    Acting shell line (told ++ trace) result

theorem Acting.of_holds {result : Except IoError Flow}
    (h : (shell.executeLine line).run.Holds trace result) : Acting shell line trace result := by
  cases hblank : Text.allBlank line with
  | true =>
    simp only [executeLine, hblank, if_true] at h
    obtain ⟨rfl, rfl⟩ := holds_run_pure.mp h
    exact .blank hblank
  | false =>
    simp only [executeLine, hblank, Bool.false_eq_true, if_false] at h
    obtain ⟨told, rest, outcome, rfl, hplan, hrest⟩ := holds_run_lift_bind.mp h
    have hplanning := Planning.of_holds hplan
    cases outcome with
    | error e =>
      obtain ⟨answer, rfl, rfl⟩ := holds_refuse.mp hrest
      exact .refused hblank hplanning
    | ok plan => exact .planned hblank hplanning (.of_holds hrest)

/-- An item is acted on. -/
inductive Responding (shell : Shell) :
    Except ReadError Input → List Exchange → Except IoError Flow → Prop
  | line {line trace result} : Acting shell line trace result →
    Responding shell (.ok (.line line)) trace result
  | interrupted {answer} :
    Responding shell (.ok .interrupted) [.write (interruptHint ++ "\n") answer]
      (answer.map fun _ => .continue)
  | endOfInput : Responding shell (.ok .endOfInput) [endNoted] (.ok .exit)
  | failed {e : ReadError} : Responding shell (.error e) [readFailureNoted e] (.ok .exit)

theorem Responding.of_holds {result : Except IoError Flow}
    (h : (shell.respond item).run.Holds trace result) : Responding shell item trace result := by
  rcases item with e | line | _ | _
  · obtain ⟨rest, rfl, hrest⟩ := holds_note_bind.mp h
    obtain ⟨rfl, rfl⟩ := holds_run_pure.mp hrest
    exact .failed
  · exact .line (.of_holds h)
  · obtain ⟨answer, hwrite, rfl⟩ := holds_run_bind_pure.mp h
    obtain rfl := holds_writeLine.mp hwrite
    exact .interrupted
  · obtain ⟨rest, rfl, hrest⟩ := holds_note_bind.mp h
    obtain ⟨rfl, rfl⟩ := holds_run_pure.mp hrest
    exact .endOfInput

/-- A step up to the point where a failure of the output has ended it. -/
inductive Trying (shell : Shell) : List Exchange → Except IoError Flow → Prop
  | unshown {trace e} : Showing trace (.error e) → Trying shell trace (.error e)
  | read {shown item trace result} : Showing shown (.ok ()) →
    Responding shell item trace result →
    Trying shell (shown ++ .readLine prompt item :: trace) result

theorem Trying.of_holds {result : Except IoError Flow}
    (h : shell.tryStep.run.Holds trace result) : Trying shell trace result := by
  rcases holds_run_bind.mp h with ⟨e, hfails, rfl⟩ | ⟨shown, rest, _, rfl, hshown, hread⟩
  · exact .unshown (.of_holds hfails)
  · obtain ⟨item, rest, rfl, hrest⟩ := holds_readLine_bind.mp hread
    exact .read (.of_holds hshown) (.of_holds hrest)

/-- A step. -/
inductive Stepping (shell : Shell) : List Exchange → Flow → Prop
  | went {told value} : Trying shell told (.ok value) → Stepping shell told value
  | stopped {told e} : Trying shell told (.error e) →
    Stepping shell (told ++ [outputFailed e]) .exit

theorem Stepping.of_holds (h : shell.step.Holds trace flow) : Stepping shell trace flow := by
  obtain ⟨told, rest, result, rfl, htry, hend⟩ := holds_bind.mp h
  have htrying := Trying.of_holds htry
  cases result with
  | ok value =>
    obtain ⟨rfl, rfl⟩ := holds_conclude.mp hend
    rw [List.append_nil]
    exact .went htrying
  | error e =>
    obtain ⟨rfl, rfl⟩ := holds_conclude.mp hend
    exact .stopped htrying

/-! ## What is asked for

Items and launches are asked for in two places only: at the prompt, and when a plan is carried
out. -/

theorem Showing.silent {result : Except IoError Unit} (h : Showing trace result) :
    Silent trace := by
  cases h with
  | unwritten => exact silent_cons.mpr ⟨rfl, silent_cons.mpr ⟨rfl, silent_nil⟩⟩
  | written => exact silent_cons.mpr ⟨rfl, silent_cons.mpr ⟨rfl, silent_cons.mpr ⟨rfl, silent_nil⟩⟩⟩

theorem Planning.silent {outcome : Except PlanError Plan}
    (h : shell.Planning line trace outcome) : Silent trace := by
  refine h.forall_mem fun x hx => ?_
  cases x <;> first | rfl | cases hx

theorem forall_mem_interruption (command : Command) {P : Exchange → Prop}
    (hlog : ∀ record, P (.log record)) (before after : UInt64) :
    ∀ x ∈ if after != before then [interruptionNoted command] else [], P x := by
  split
  · exact List.forall_mem_singleton.mpr (hlog _)
  · exact List.forall_mem_nil _

/-- After the launch there is only something to tell. -/
theorem Running.exists_silent {result : Except IoError Unit} (h : Running command trace result) :
    ∃ before answer rest, trace = .interrupts before :: .launch command answer :: rest ∧
      Silent rest := by
  have hinterruption := forall_mem_interruption command (P := (·.asks = false)) fun _ => rfl
  cases h with
  | untold => exact ⟨_, _, _, rfl, silent_cons.mpr ⟨rfl, silent_nil⟩⟩
  | failed =>
    exact ⟨_, _, _, rfl, silent_cons.mpr ⟨rfl, silent_cons.mpr ⟨rfl, hinterruption _ _⟩⟩⟩
  | finished =>
    refine ⟨_, _, _, rfl, silent_append.mpr ⟨?_, silent_cons.mpr ⟨rfl, hinterruption _ _⟩⟩⟩
    exact List.forall_mem_map.mpr fun _ _ => rfl

/-- Carrying a plan out launches its command and nothing else. -/
theorem CarryingOut.asked {result : Except IoError Flow} (h : CarryingOut plan trace result) :
    reads trace = [] ∧
      (launches trace = plan.command?.toList ∨ launches trace = [] ∧ ∃ e, result = .error e) := by
  cases h with
  | unflushed => exact ⟨rfl, .inr ⟨rfl, _, rfl⟩⟩
  | nothing | exit => exact ⟨rfl, .inl rfl⟩
  | launch hrunning =>
    obtain ⟨before, answer, rest, rfl, hrest⟩ := hrunning.exists_silent
    exact ⟨hrest.reads_eq_nil, .inl (congrArg (List.cons _) hrest.launches_eq_nil)⟩

/-- Acting on a line reads nothing, and launches at most what its plan says. -/
theorem Acting.asked {result : Except IoError Flow} (h : Acting shell line trace result) :
    reads trace = [] ∧ (launches trace).length ≤ 1 := by
  cases h with
  | blank => exact ⟨rfl, Nat.zero_le _⟩
  | @refused told e answer _ hplanning =>
    have hsilent : Silent (told ++ [lineRefused e, .write (refusal e) answer]) :=
      silent_append.mpr ⟨hplanning.silent, silent_cons.mpr ⟨rfl, silent_cons.mpr ⟨rfl, silent_nil⟩⟩⟩
    exact ⟨hsilent.reads_eq_nil, by simp [hsilent.launches_eq_nil]⟩
  | @planned told plan rest result _ hplanning hcarried =>
    obtain ⟨hreads, hlaunches⟩ := hcarried.asked
    rw [reads_append, launches_append, hplanning.silent.reads_eq_nil,
      hplanning.silent.launches_eq_nil, hreads]
    refine ⟨rfl, ?_⟩
    rcases hlaunches with hlaunches | ⟨hlaunches, -⟩
    · rw [hlaunches]
      cases plan.command? <;> simp
    · simp [hlaunches]

theorem Responding.asked {result : Except IoError Flow} (h : Responding shell item trace result) :
    reads trace = [] ∧ (launches trace).length ≤ 1 := by
  cases h with
  | line hacting => exact hacting.asked
  | interrupted | endOfInput | failed => exact ⟨rfl, Nat.zero_le _⟩

/-- A step reads at most one item and launches at most one command. -/
theorem Trying.asked {result : Except IoError Flow} (h : Trying shell trace result) :
    (reads trace).length ≤ 1 ∧ (launches trace).length ≤ 1 := by
  cases h with
  | unshown hshowing =>
    simp [hshowing.silent.reads_eq_nil, hshowing.silent.launches_eq_nil]
  | read hshowing hresponding =>
    obtain ⟨hreads, hlaunches⟩ := hresponding.asked
    simp only [reads_append, launches_append, hshowing.silent.reads_eq_nil,
      hshowing.silent.launches_eq_nil, List.nil_append]
    exact ⟨Nat.le_of_eq (congrArg (fun items => items.length + 1) hreads), hlaunches⟩

theorem Stepping.asked (h : Stepping shell trace flow) :
    (reads trace).length ≤ 1 ∧ (launches trace).length ≤ 1 := by
  cases h with
  | went htrying => exact htrying.asked
  | @stopped told e htrying =>
    have hsilent : Silent [outputFailed e] := silent_cons.mpr ⟨rfl, silent_nil⟩
    rw [reads_append, launches_append, hsilent.reads_eq_nil, hsilent.launches_eq_nil,
      List.append_nil, List.append_nil]
    exact htrying.asked

/-! The directory is only ever changed by a builtin. -/

theorem Showing.stays {result : Except IoError Unit} (h : Showing trace result) :
    ∀ x ∈ trace, x.target? = none := by
  cases h <;> simp [Exchange.target?]

theorem Running.stays {result : Except IoError Unit} (h : Running command trace result) :
    ∀ x ∈ trace, x.target? = none := by
  have hinterruption := forall_mem_interruption command (P := (·.target? = none)) fun _ => rfl
  cases h with
  | untold => simp [Exchange.target?]
  | failed =>
    simp only [List.forall_mem_cons]
    exact ⟨rfl, rfl, rfl, rfl, hinterruption _ _⟩
  | finished =>
    simp only [List.forall_mem_cons, List.forall_mem_append, List.forall_mem_map]
    exact ⟨rfl, rfl, fun _ _ => rfl, rfl, hinterruption _ _⟩

theorem CarryingOut.stays {result : Except IoError Flow} (h : CarryingOut plan trace result) :
    ∀ x ∈ trace, x.target? = none := by
  cases h with
  | unflushed | nothing | exit => simp [planNoted, Exchange.target?]
  | launch hrunning => exact List.forall_mem_cons.mpr ⟨rfl, List.forall_mem_cons.mpr
      ⟨rfl, hrunning.stays⟩⟩

/-! ## Runs -/

/-- The transcripts of the steps of a run, and how it stands after them. -/
inductive InSteps (shell : Shell) : List (List Exchange) → Flow → Prop
  | paused : InSteps shell [] .continue
  | ended {said} : shell.step.Holds said .exit → InSteps shell [said] .exit
  | went {said parts flow} : shell.step.Holds said .continue → InSteps shell parts flow →
    InSteps shell (said :: parts) flow

theorem InSteps.holds {parts : List (List Exchange)} (h : InSteps shell parts flow) :
    ∀ said ∈ parts, ∃ value, shell.step.Holds said value := by
  induction h with
  | paused => exact List.forall_mem_nil _
  | ended hstep => exact List.forall_mem_singleton.mpr ⟨_, hstep⟩
  | went hstep _ ih => exact List.forall_mem_cons.mpr ⟨⟨_, hstep⟩, ih⟩

/-- Every step of a run has stepped. -/
theorem InSteps.stepping {parts : List (List Exchange)} (h : InSteps shell parts flow) :
    ∀ said ∈ parts, ∃ value, Stepping shell said value := fun said hsaid =>
  (h.holds said hsaid).imp fun _ hstep => .of_holds hstep

/-- A run is one step after the other. -/
theorem holds_steps {turns : Nat} (h : (shell.steps turns).Holds trace flow) :
    ∃ parts, InSteps shell parts flow ∧ trace = parts.flatten ∧ parts.length ≤ turns := by
  induction turns generalizing trace with
  | zero =>
    obtain ⟨rfl, rfl⟩ := holds_pure.mp h
    exact ⟨[], .paused, rfl, Nat.le_refl _⟩
  | succ turns ih =>
    obtain ⟨said, rest, value, rfl, hstep, hrest⟩ := holds_bind.mp h
    cases value with
    | «continue» =>
      obtain ⟨parts, hparts, rfl, hlength⟩ := ih hrest
      exact ⟨said :: parts, .went hstep hparts, rfl, Nat.succ_le_succ hlength⟩
    | exit =>
      obtain ⟨rfl, rfl⟩ := holds_pure.mp hrest
      exact ⟨[said], .ended hstep, by simp, Nat.succ_le_succ (Nat.zero_le _)⟩

section
variable {σ : Type} {partners : Surroundings σ} {s s' : σ}

theorem steps_succ_run (shell : Shell) (turns : Nat) (partners : Surroundings σ) (s : σ) :
    (shell.steps (turns + 1)).run partners s =
      match (shell.step.run partners s).1 with
      | .continue => (shell.steps turns).run partners (shell.step.run partners s).2
      | .exit => (.exit, (shell.step.run partners s).2) := by
  refine (run_bind partners shell.step _ s).trans ?_
  cases (shell.step.run partners s).1 <;> rfl

theorem steps_succ_transcript (shell : Shell) (turns : Nat) (partners : Surroundings σ) (s : σ) :
    (shell.steps (turns + 1)).transcript partners s =
      shell.step.transcript partners s ++
        match (shell.step.run partners s).1 with
        | .continue => (shell.steps turns).transcript partners (shell.step.run partners s).2
        | .exit => [] := by
  refine (transcript_bind partners shell.step _ s).trans ?_
  cases (shell.step.run partners s).1 <;> rfl

theorem steps_one_run_snd (shell : Shell) (partners : Surroundings σ) (s : σ) :
    ((shell.steps 1).run partners s).2 = (shell.step.run partners s).2 := by
  rw [steps_succ_run]
  cases (shell.step.run partners s).1 <;> rfl

/-! A step that goes on is followed by the rest of the run; one that does not is all of it. -/

theorem steps_run_of_continue (h : shell.step.run partners s = (.continue, s')) (turns : Nat) :
    (shell.steps (turns + 1)).run partners s = (shell.steps turns).run partners s' := by
  rw [steps_succ_run, h]

theorem steps_transcript_of_continue (h : shell.step.run partners s = (.continue, s'))
    (turns : Nat) : (shell.steps (turns + 1)).transcript partners s =
      shell.step.transcript partners s ++ (shell.steps turns).transcript partners s' := by
  rw [steps_succ_transcript, h]

theorem steps_run_of_exit (h : shell.step.run partners s = (.exit, s')) (turns : Nat) :
    (shell.steps (turns + 1)).run partners s = (.exit, s') := by
  rw [steps_succ_run, h]

theorem steps_transcript_of_exit (h : shell.step.run partners s = (.exit, s')) (turns : Nat) :
    (shell.steps (turns + 1)).transcript partners s = shell.step.transcript partners s := by
  rw [steps_succ_transcript, h, List.append_nil]

end

end Shell
end PipeShell
