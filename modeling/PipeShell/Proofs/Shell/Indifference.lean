import Mathlib.Data.List.Forall2
import PipeShell.Proofs.Shell.Consumption
import PipeShell.Proofs.Shell.Directory

/-! # Indifference to outcomes

What a step does is determined by the item that it reads and the directory that it starts in
(`Determined`): no outcome of a launch and no failure to show the directory makes a difference to
what is read, launched or entered next. What the output hears differs in two places only, the line
above the prompt and the line that reports a failed launch (`Spoken`). So two runs over the same
items and directories go alike (`steps_alike`). -/

namespace PipeShell
open Line Interaction Output
open Text (utf8)

/-! ## What the output hears -/

/-- Whether the exchange is a write, or decides on a text that is written: a look at the directory,
or a launch that failed. -/
def Exchange.isAudible : Exchange → Bool
  | write .. | currentDir _ | launch _ (.error _) => true
  | _ => false

/-- What the output hears, and what decides on it. -/
def audible (trace : List Exchange) : List Exchange := trace.filter Exchange.isAudible

@[simp] theorem audible_append {trace₁ trace₂ : List Exchange} :
    audible (trace₁ ++ trace₂) = audible trace₁ ++ audible trace₂ := List.filter_append ..

/-- A text that was accepted. -/
def wrote (text : String) : Exchange := .write text (.ok ())

variable {shell : Shell} {line : String} {plan : Plan} {trace : List Exchange} {flow : Flow}
  {item : Item} {command : Command} {answer : String → Except IoError Unit}

theorem audible_eq_nil (h : ∀ x ∈ trace, x.isAudible = false) : audible trace = [] :=
  List.filter_eq_nil_iff.mpr fun x hx => by simp [h x hx]

/-- What is not heard is not offered to the output. -/
theorem offered_audible (trace : List Exchange) : offered (audible trace) = offered trace := by
  induction trace with
  | nil => rfl
  | cons x trace ih =>
    have hrest : offered (trace.filter Exchange.isAudible) = offered trace := ih
    rw [audible, List.filter_cons]
    split
    · rw [offered_cons, offered_cons, hrest]
    · next hx =>
      have hbytes : x.bytes = [] := by
        cases x with
        | write => exact (hx rfl).elim
        | _ => rfl
      rw [offered_cons, hrest, hbytes, List.nil_append]

theorem offered_wrote (texts : List String) : offered (texts.map wrote) = texts.flatMap utf8 :=
  List.flatMap_map ..

theorem Writing.audible_eq {lines : List String} {result : Except IoError Unit}
    (h : Writing lines trace result) (haccepted : Unfailing Exchange.failure trace) :
    audible trace = lines.map wrote := by
  induction h with
  | done => rfl
  | refused => simp [Exchange.failure] at haccepted
  | accepted _ ih => exact congrArg (List.cons _) (ih (unfailing_cons.mp haccepted).2)

/-- The changes of directory go like this. -/
def Answers (answer : String → Except IoError Unit) (trace : List Exchange) : Prop :=
  ∀ target result, .changeDir target result ∈ trace → result = answer target

namespace Builtin

/-- What a builtin writes if changes of directory go like this. -/
def reply (user : String) (argv : Argv) (answer : String → Except IoError Unit) :
    Builtin → List String
  | cd => match argv.arg 1 with
    | none => cd.lines user
    | some target => match answer target with
      | .ok () => []
      | .error e => [cdFailed target e]
  | b => b.lines user

theorem Performing.audible_eq {user : String} {argv : Argv} {b : Builtin}
    {result : Except IoError Unit} (h : b.Performing user argv trace result)
    (haccepted : Unfailing Exchange.failure trace) (hanswers : Answers answer trace) :
    audible trace = (b.reply user argv answer).map wrote := by
  cases h with
  | moved htarget =>
    simp only [reply, htarget, ← hanswers _ _ (.head _)]
    rfl
  | unmoved htarget hwriting =>
    simp only [reply, htarget, ← hanswers _ _ (.head _)]
    exact hwriting.audible_eq (unfailing_cons.mp haccepted).2
  | told hnone hwriting =>
    rw [hwriting.audible_eq haccepted]
    cases b with
    | cd => simp only [reply, hnone rfl]
    | exit | help | hello => rfl

end Builtin

/-- What the builtin of a line writes, if the line calls one. -/
def Reading.reply (user : String) (answer : String → Except IoError Unit)
    (r : Reading) : List String :=
  match r.builtin? with
  | none => []
  | some b => b.reply user ⟨r.first⟩ answer

namespace Shell

/-- What is written in answer to an item if changes of directory go like this, apart from the
report of a failed launch. -/
def reply (shell : Shell) (answer : String → Except IoError Unit) : Item → List String
  | .ok (.line line) =>
    if Text.allBlank line then []
    else match shell.called line with
      | .error reason => [refusal (.rejected reason)]
      | .ok _ => (Reading.ofLine line).reply shell.user answer
  | .ok .interrupted => [interruptHint ++ "\n"]
  | .ok .endOfInput | .error _ => []

/-- A line that wants something launched calls no builtin, so nothing else is written. -/
theorem reply_of_wanted (h : shell.wanted item = some command) : shell.reply answer item = [] := by
  obtain ⟨line, rfl, hblank, hcalled⟩ := called_of_wanted h
  have hcalls := (Reading.plan_eq_launch_iff.mp (called_eq_ok_iff.mp hcalled).2.2).1
  simp only [reply, hblank, hcalled, Reading.reply, Reading.builtin?_of_callsProgram hcalls]
  rfl

/-- What is heard of a launch: nothing, or that it failed. -/
inductive Reporting : List Exchange → Prop
  | silent : Reporting []
  | failed {command e} : Reporting [.launch command (.error e), wrote (launchFailed e)]

/-- What is heard of a step: the line above the prompt, these texts, and the report of a launch. -/
def Spoken (texts : List String) (said : List Exchange) : Prop :=
  ∃ found report, Reporting report ∧
    audible said =
      .currentDir found :: wrote (directoryLine found ++ "\n") :: (texts.map wrote ++ report) ∧
    offered said =
      utf8 (directoryLine found ++ "\n") ++ texts.flatMap utf8 ++ offered report

theorem Running.reporting {result : Except IoError Unit} (h : Running command trace result)
    (haccepted : Unfailing Exchange.failure trace) : Reporting (audible trace) := by
  have hinterruption := forall_mem_interruption command (P := (·.isAudible = false)) fun _ => rfl
  cases h with
  | untold => simp [Exchange.failure] at haccepted
  | @failed before e after =>
    have hrest := audible_eq_nil (hinterruption before after)
    have hheard : audible (.interrupts before :: .launch command (.error e) ::
        .write (launchFailed e) (.ok ()) :: .interrupts after ::
          if after != before then [interruptionNoted command] else []) =
        [.launch command (.error e), wrote (launchFailed e)] :=
      congrArg (fun rest => Exchange.launch command (.error e) :: wrote (launchFailed e) :: rest)
        hrest
    rw [hheard]
    exact .failed
  | finished =>
    rw [audible_eq_nil]
    · exact .silent
    · simp only [List.forall_mem_cons, List.forall_mem_append, List.forall_mem_map]
      exact ⟨rfl, rfl, fun _ _ => rfl, rfl, hinterruption _ _⟩

theorem CarryingOut.reporting {result : Except IoError Flow} (h : CarryingOut plan trace result)
    (haccepted : Unfailing Exchange.failure trace) :
    Reporting (audible trace) := by
  cases h with
  | unflushed => simp [Exchange.failure] at haccepted
  | nothing | exit => exact .silent
  | launch hrunning =>
    exact hrunning.reporting (unfailing_cons.mp (unfailing_cons.mp haccepted).2).2

/-- Of a line that has a plan, only its builtin is heard. -/
theorem Planned.audible_of_ok (h : shell.Planned line trace (.ok plan))
    (haccepted : Unfailing Exchange.failure trace) (hanswers : Answers answer trace) :
    audible trace = ((Reading.ofLine line).reply shell.user answer).map wrote := by
  obtain ⟨-, ⟨hnone, rfl⟩ | ⟨b, told, hb, rfl, hperforms⟩⟩ := h.of_ok
  · rw [Reading.reply, hnone]
    rfl
  · have htold : Answers answer told :=
      fun target result hmem => hanswers target result (.tail _ (.tail _ hmem))
    rw [Reading.reply, hb]
    exact hperforms.audible_eq (unfailing_cons.mp (unfailing_cons.mp haccepted).2).2 htold

theorem Acting.heard {result : Except IoError Flow} (h : Acting shell line trace result)
    (haccepted : Unfailing Exchange.failure trace) (hanswers : Answers answer trace) :
    ∃ report, Reporting report ∧
      audible trace = (shell.reply answer (.ok (.line line))).map wrote ++ report := by
  cases h with
  | blank hblank => exact ⟨[], .silent, by simp [reply, hblank, audible]⟩
  | @refused told e result hblank hplanning =>
    obtain ⟨htold, hrefusal⟩ := unfailing_append.mp haccepted
    cases result with
    | error => simp [Exchange.failure] at hrefusal
    | ok =>
      cases e with
      | io =>
        have hcalled := hplanning.planned.eq_called htold
        cases hreason : shell.called line <;> rw [hreason] at hcalled <;> cases hcalled
      | rejected reason =>
        obtain ⟨hreason, hsilent⟩ := hplanning.planned.of_rejected
        have htold : audible told = [] := by rcases hsilent with rfl | rfl <;> rfl
        refine ⟨[], .silent, ?_⟩
        simp only [audible_append, htold, reply, hblank, hreason]
        rfl
  | @planned told plan rest result hblank hplanning hcarried =>
    obtain ⟨htold, hrest⟩ := unfailing_append.mp haccepted
    have hanswered : Answers answer told :=
      fun target result hmem => hanswers target result (List.mem_append_left _ hmem)
    refine ⟨audible rest, hcarried.reporting hrest, ?_⟩
    rw [audible_append, hplanning.planned.audible_of_ok htold hanswered]
    simp only [reply, hblank, hplanning.planned.of_ok.1]
    rfl

theorem Responding.heard {result : Except IoError Flow} (h : Responding shell item trace result)
    (haccepted : Unfailing Exchange.failure trace) (hanswers : Answers answer trace) :
    ∃ report, Reporting report ∧ audible trace = (shell.reply answer item).map wrote ++ report := by
  cases h with
  | line hacting => exact hacting.heard haccepted hanswers
  | @interrupted result =>
    cases result with
    | ok => exact ⟨[], .silent, rfl⟩
    | error => simp [Exchange.failure] at haccepted
  | endOfInput | failed => exact ⟨[], .silent, rfl⟩

/-- What is heard of an accepted step. -/
theorem Stepping.spoken (h : Stepping shell trace flow)
    (haccepted : Unfailing Exchange.failure trace) (hanswers : Answers answer trace) :
    ∃ item, reads trace = [item] ∧ Spoken (shell.reply answer item) trace := by
  obtain ⟨shown, item, rest, rfl, hshowing, hresponding⟩ := h.exists_responding haccepted
  have hrest := (unfailing_cons.mp (unfailing_append.mp haccepted).2).2
  have hanswered : Answers answer rest := fun target result hmem =>
    hanswers target result (List.mem_append_right _ (.tail _ hmem))
  obtain ⟨report, hreport, hheard⟩ := hresponding.heard hrest hanswered
  refine ⟨item, ?_, ?_⟩
  · rw [reads_append, hshowing.silent.reads_eq_nil]
    exact congrArg (List.cons item) hresponding.asked.1
  · cases hshowing with
    | @written found =>
      have hsaid : audible ([.currentDir found, .write (directoryLine found ++ "\n") (.ok ()),
          .flush (.ok ())] ++ .readLine prompt item :: rest) =
          .currentDir found :: wrote (directoryLine found ++ "\n") ::
            ((shell.reply answer item).map wrote ++ report) := by
        rw [← hheard]
        rfl
      refine ⟨found, report, hreport, hsaid, ?_⟩
      rw [← offered_audible, hsaid, offered_cons, offered_cons, offered_append, offered_wrote,
        List.append_assoc]
      rfl

/-! ## What the output hears where no launch fails -/

/-- The answers to the questions for the directory, in order. -/
def shown (trace : List Exchange) : List (Except IoError String) :=
  trace.filterMap fun
    | .currentDir found => some found
    | _ => none

@[simp] theorem shown_append {trace₁ trace₂ : List Exchange} :
    shown (trace₁ ++ trace₂) = shown trace₁ ++ shown trace₂ := List.filterMap_append

/-- No launch has failed. -/
def AllLaunched (trace : List Exchange) : Prop :=
  ∀ command e, .launch command (.error e) ∉ trace

theorem allLaunched_append {trace₁ trace₂ : List Exchange} :
    AllLaunched (trace₁ ++ trace₂) ↔ AllLaunched trace₁ ∧ AllLaunched trace₂ := by
  simp only [AllLaunched, List.mem_append, not_or, forall_and]

theorem shown_audible (trace : List Exchange) : shown (audible trace) = shown trace := by
  rw [shown, audible, List.filterMap_filter]
  congr 1
  funext x
  cases x with
  | launch _ result => cases result <;> rfl
  | _ => rfl

/-- A step looks at the directory once. If no launch has failed, the rest of what it writes is
known. -/
theorem Spoken.exists_shown {texts : List String} {said : List Exchange} (h : Spoken texts said) :
    ∃ found, shown said = [found] ∧ (AllLaunched said →
      offered said = utf8 (directoryLine found ++ "\n") ++ texts.flatMap utf8) := by
  obtain ⟨found, report, hreport, hheard, hoffered⟩ := h
  have hwritten : shown (texts.map wrote) = [] :=
    List.filterMap_eq_nil_iff.mpr (List.forall_mem_map.mpr fun _ _ => rfl)
  refine ⟨found, ?_, fun hlaunched => ?_⟩
  · have hreported : shown report = [] := by cases hreport <;> rfl
    have hlater : shown (texts.map wrote ++ report) = [] := by
      rw [shown_append, hwritten, hreported, List.append_nil]
    rw [← shown_audible, hheard]
    exact congrArg (List.cons found) hlater
  · rw [hoffered]
    cases hreport with
    | silent => exact List.append_nil _
    | @failed command e =>
      have hfailed : .launch command (.error e) ∈ audible said := by simp [hheard]
      exact (hlaunched command e (List.mem_filter.mp hfailed).1).elim

/-- Where no launch fails and the directory is found alike, the same texts are the same bytes. -/
theorem Spoken.offered_eq {texts : List String} {said₁ said₂ : List Exchange}
    (h₁ : Spoken texts said₁) (h₂ : Spoken texts said₂) (hlaunched₁ : AllLaunched said₁)
    (hlaunched₂ : AllLaunched said₂) (hshown : shown said₁ = shown said₂) :
    offered said₁ = offered said₂ := by
  obtain ⟨found₁, hfound₁, hoffered₁⟩ := h₁.exists_shown
  obtain ⟨found₂, hfound₂, hoffered₂⟩ := h₂.exists_shown
  rw [hfound₁, hfound₂] at hshown
  rw [hoffered₁ hlaunched₁, hoffered₂ hlaunched₂, (List.cons.inj hshown).1]

/-! ## Steps -/

section
variable {σ δ : Type} {partners : Surroundings σ} {queue : σ → List Item} {directory : σ → δ}
  {change : String → δ → Except IoError Unit × δ} {s : σ}

/-- All that a step does is determined by the front of the queue and by the directory. -/
structure Determined (partners : Surroundings σ) (queue : σ → List Item) (directory : σ → δ)
    (change : String → δ → Except IoError Unit × δ) (shell : Shell) (s : σ) : Prop where
  flow : (shell.step.run partners s).1 = shell.flowAfter ((queue s).headD .atEnd)
  left : queue (shell.step.run partners s).2 = (queue s).tail
  entered : directory (shell.step.run partners s).2 =
    (shell.operand? ((queue s).headD .atEnd)).toList.foldl (fun d t => (change t d).2) (directory s)
  read : reads (shell.step.transcript partners s) = [(queue s).headD .atEnd]
  launched : launches (shell.step.transcript partners s) =
    (shell.wanted ((queue s).headD .atEnd)).toList
  asked : targets (shell.step.transcript partners s) =
    (shell.operand? ((queue s).headD .atEnd)).toList
  spoken : Spoken
    (shell.reply (fun target => (change target (directory s)).1) ((queue s).headD .atEnd))
    (shell.step.transcript partners s)

theorem step_determined (hqueue : ReadsFrom partners queue)
    (hdirectory : HoldsDirectory partners (fun _ => ()) directory fun _ => change)
    (haccepts : Accepts partners shell.step s) :
    Determined partners queue directory change shell s := by
  obtain ⟨hflow, hleft, hread, -, hlaunched⟩ := step_consumes hqueue haccepts
  have hstepping := Stepping.of_holds (holds_transcript partners shell.step s)
  have hasked : targets (shell.step.transcript partners s) =
      (shell.operand? ((queue s).headD .atEnd)).toList := hstepping.targets_eq hread
  -- At most one change is asked for, so it is made from the directory of the start.
  have hanswers : Answers (fun target => (change target (directory s)).1)
      (shell.step.transcript partners s) := by
    intro target result hmem
    obtain ⟨before, rest, hsaid⟩ := List.append_of_mem hmem
    have hone : (targets (shell.step.transcript partners s)).length ≤ 1 := by
      rw [hasked]
      cases shell.operand? ((queue s).headD .atEnd) <;> simp
    rw [hsaid, targets_append, List.length_append] at hone
    have hlater : targets (.changeDir target result :: rest) = target :: targets rest := rfl
    rw [hlater, List.length_cons] at hone
    have hbefore : targets before = [] := List.length_eq_zero_iff.mp (by omega)
    exact hdirectory.answer_eq hsaid hbefore
  refine ⟨hflow, hleft, ?_, hread, hlaunched, hasked, ?_⟩
  · rw [run_eq_after, hdirectory.after_eq_foldl, hasked]
  · obtain ⟨item, hitem, hspoken⟩ := hstepping.spoken haccepts hanswers
    obtain rfl : item = (queue s).headD .atEnd := List.cons.inj (hitem.symm.trans hread) |>.1
    exact hspoken

end

/-! ## Two runs -/

/-- Two steps that do the same, up to the line above the prompt and the report of a launch. -/
structure SameStep (said₁ said₂ : List Exchange) : Prop where
  read : reads said₁ = reads said₂
  launched : launches said₁ = launches said₂
  asked : targets said₁ = targets said₂
  spoken : ∃ texts, Spoken texts said₁ ∧ Spoken texts said₂ ∧ (launches said₁ ≠ [] → texts = [])
  written : AllLaunched said₁ → AllLaunched said₂ → shown said₁ = shown said₂ →
    offered said₁ = offered said₂

section
variable {σ₁ σ₂ δ : Type} {partners₁ : Surroundings σ₁} {partners₂ : Surroundings σ₂}
  {queue₁ : σ₁ → List Item} {queue₂ : σ₂ → List Item} {directory₁ : σ₁ → δ} {directory₂ : σ₂ → δ}
  {change : String → δ → Except IoError Unit × δ} {s₁ : σ₁} {s₂ : σ₂} {turns : Nat}

theorem Determined.sameStep (h₁ : Determined partners₁ queue₁ directory₁ change shell s₁)
    (h₂ : Determined partners₂ queue₂ directory₂ change shell s₂) (hitems : queue₁ s₁ = queue₂ s₂)
    (hstart : directory₁ s₁ = directory₂ s₂) :
    SameStep (shell.step.transcript partners₁ s₁) (shell.step.transcript partners₂ s₂) := by
  have hspoken := h₂.spoken
  rw [← hitems, ← hstart] at hspoken
  constructor
  · rw [h₁.read, h₂.read, hitems]
  · rw [h₁.launched, h₂.launched, hitems]
  · rw [h₁.asked, h₂.asked, hitems]
  · refine ⟨_, h₁.spoken, hspoken, fun hlaunches => ?_⟩
    rw [h₁.launched] at hlaunches
    cases hwanted : shell.wanted ((queue₁ s₁).headD .atEnd) with
    | none =>
      rw [hwanted] at hlaunches
      exact (hlaunches rfl).elim
    | some command => exact reply_of_wanted hwanted
  · exact h₁.spoken.offered_eq hspoken

end

section
variable {σ₁ σ₂ δ : Type} (partners₁ : Surroundings σ₁) (partners₂ : Surroundings σ₂)
  (queue₁ : σ₁ → List Item) (queue₂ : σ₂ → List Item) (directory₁ : σ₁ → δ) (directory₂ : σ₂ → δ)
  (shell : Shell) (turns : Nat) (s₁ : σ₁) (s₂ : σ₂)

/-- Two runs of this many steps that go alike. -/
structure Alike : Prop where
  flow : ((shell.steps turns).run partners₁ s₁).1 = ((shell.steps turns).run partners₂ s₂).1
  unread : queue₁ ((shell.steps turns).run partners₁ s₁).2 =
    queue₂ ((shell.steps turns).run partners₂ s₂).2
  directory : directory₁ ((shell.steps turns).run partners₁ s₁).2 =
    directory₂ ((shell.steps turns).run partners₂ s₂).2
  steps : ∃ parts₁ parts₂,
    InSteps shell parts₁ ((shell.steps turns).run partners₁ s₁).1 ∧
    InSteps shell parts₂ ((shell.steps turns).run partners₂ s₂).1 ∧
    (shell.steps turns).transcript partners₁ s₁ = parts₁.flatten ∧
    (shell.steps turns).transcript partners₂ s₂ = parts₂.flatten ∧
    List.Forall₂ SameStep parts₁ parts₂

end

section
variable {σ₁ σ₂ δ : Type} {partners₁ : Surroundings σ₁} {partners₂ : Surroundings σ₂}
  {queue₁ : σ₁ → List Item} {queue₂ : σ₂ → List Item} {directory₁ : σ₁ → δ} {directory₂ : σ₂ → δ}
  {change : String → δ → Except IoError Unit × δ} {s₁ : σ₁} {s₂ : σ₂} {turns : Nat}

/-- Steps that end both runs and are the same. -/
theorem Alike.of_exit {t₁ : σ₁} {t₂ : σ₂} (hends₁ : shell.step.run partners₁ s₁ = (.exit, t₁))
    (hends₂ : shell.step.run partners₂ s₂ = (.exit, t₂))
    (hsame : SameStep (shell.step.transcript partners₁ s₁) (shell.step.transcript partners₂ s₂))
    (hunread : queue₁ t₁ = queue₂ t₂) (hentered : directory₁ t₁ = directory₂ t₂) :
    Alike partners₁ partners₂ queue₁ queue₂ directory₁ directory₂ shell (turns + 1) s₁ s₂ := by
  have hsaid₁ := holds_transcript partners₁ shell.step s₁
  have hsaid₂ := holds_transcript partners₂ shell.step s₂
  rw [hends₁] at hsaid₁
  rw [hends₂] at hsaid₂
  constructor
  all_goals rw [steps_run_of_exit hends₁, steps_run_of_exit hends₂]
  · exact hunread
  · exact hentered
  · rw [steps_transcript_of_exit hends₁, steps_transcript_of_exit hends₂]
    exact ⟨_, _, .ended hsaid₁, .ended hsaid₂, List.flatten_singleton.symm,
      List.flatten_singleton.symm, .cons hsame .nil⟩

/-- Steps that are the same and go on to runs that go alike. -/
theorem Alike.of_continue {t₁ : σ₁} {t₂ : σ₂}
    (hgoes₁ : shell.step.run partners₁ s₁ = (.continue, t₁))
    (hgoes₂ : shell.step.run partners₂ s₂ = (.continue, t₂))
    (hsame : SameStep (shell.step.transcript partners₁ s₁) (shell.step.transcript partners₂ s₂))
    (h : Alike partners₁ partners₂ queue₁ queue₂ directory₁ directory₂ shell turns t₁ t₂) :
    Alike partners₁ partners₂ queue₁ queue₂ directory₁ directory₂ shell (turns + 1) s₁ s₂ := by
  have hsaid₁ := holds_transcript partners₁ shell.step s₁
  have hsaid₂ := holds_transcript partners₂ shell.step s₂
  rw [hgoes₁] at hsaid₁
  rw [hgoes₂] at hsaid₂
  constructor
  all_goals rw [steps_run_of_continue hgoes₁, steps_run_of_continue hgoes₂]
  · exact h.flow
  · exact h.unread
  · exact h.directory
  · obtain ⟨parts₁, parts₂, hparts₁, hparts₂, hflat₁, hflat₂, hall⟩ := h.steps
    rw [steps_transcript_of_continue hgoes₁, steps_transcript_of_continue hgoes₂, hflat₁, hflat₂]
    exact ⟨_, _, .went hsaid₁ hparts₁, .went hsaid₂ hparts₂, rfl, rfl, .cons hsame hall⟩

theorem alike_of_le (hqueue₁ : ReadsFrom partners₁ queue₁) (hqueue₂ : ReadsFrom partners₂ queue₂)
    (hdirectory₁ : HoldsDirectory partners₁ (fun _ => ()) directory₁ fun _ => change)
    (hdirectory₂ : HoldsDirectory partners₂ (fun _ => ()) directory₂ fun _ => change)
    (haccepts₁ : Accepts partners₁ (shell.steps turns) s₁)
    (haccepts₂ : Accepts partners₂ (shell.steps turns) s₂)
    (hitems : queue₁ s₁ = queue₂ s₂) (hstart : directory₁ s₁ = directory₂ s₂)
    {n : Nat} (hn : n ≤ turns) :
    Alike partners₁ partners₂ queue₁ queue₂ directory₁ directory₂ shell n s₁ s₂ := by
  induction n generalizing turns s₁ s₂ with
  | zero => exact ⟨rfl, hitems, hstart, [], [], .paused, .paused, rfl, rfl, .nil⟩
  | succ n ih =>
    obtain ⟨turns, rfl⟩ := Nat.exists_eq_succ_of_ne_zero (Nat.ne_of_gt (Nat.zero_lt_of_lt hn))
    obtain ⟨hstep₁, hrest₁⟩ := accepts_steps_succ haccepts₁
    obtain ⟨hstep₂, hrest₂⟩ := accepts_steps_succ haccepts₂
    have h₁ := step_determined hqueue₁ hdirectory₁ hstep₁
    have h₂ := step_determined hqueue₂ hdirectory₂ hstep₂
    have hsame := h₁.sameStep h₂ hitems hstart
    have hleft : queue₁ (shell.step.run partners₁ s₁).2 =
        queue₂ (shell.step.run partners₂ s₂).2 := by
      rw [h₁.left, h₂.left, hitems]
    have hentered : directory₁ (shell.step.run partners₁ s₁).2 =
        directory₂ (shell.step.run partners₂ s₂).2 := by
      rw [h₁.entered, h₂.entered, hitems, hstart]
    have hflow₂ : (shell.step.run partners₂ s₂).1 = (shell.step.run partners₁ s₁).1 := by
      rw [h₁.flow, h₂.flow, hitems]
    cases hflow₁ : (shell.step.run partners₁ s₁).1 with
    | «continue» =>
      rw [hflow₁] at hflow₂
      exact .of_continue (Prod.ext hflow₁ rfl) (Prod.ext hflow₂ rfl) hsame
        (ih (hrest₁ hflow₁) (hrest₂ hflow₂) hleft hentered (Nat.le_of_succ_le_succ hn))
    | exit =>
      rw [hflow₁] at hflow₂
      exact .of_exit (Prod.ext hflow₁ rfl) (Prod.ext hflow₂ rfl) hsame hleft hentered

end

/-! ## The bytes of two runs -/

/-- Where no launch fails and the directories are found alike, the same bytes are written. -/
theorem offered_flatten_eq {parts₁ parts₂ : List (List Exchange)}
    (h : List.Forall₂ SameStep parts₁ parts₂) (hlaunched₁ : AllLaunched parts₁.flatten)
    (hlaunched₂ : AllLaunched parts₂.flatten)
    (hshown : shown parts₁.flatten = shown parts₂.flatten) :
    offered parts₁.flatten = offered parts₂.flatten := by
  induction h with
  | nil => rfl
  | @cons said₁ said₂ parts₁ parts₂ hsame _ ih =>
    obtain ⟨texts, hspoken₁, hspoken₂, -⟩ := hsame.spoken
    obtain ⟨found₁, hfound₁, -⟩ := hspoken₁.exists_shown
    obtain ⟨found₂, hfound₂, -⟩ := hspoken₂.exists_shown
    simp only [List.flatten_cons, allLaunched_append] at hlaunched₁ hlaunched₂
    have hlengths : (shown said₁).length = (shown said₂).length := by rw [hfound₁, hfound₂]; rfl
    rw [List.flatten_cons, List.flatten_cons, shown_append, shown_append] at hshown
    obtain ⟨hfirst, hrest⟩ := List.append_inj hshown hlengths
    rw [List.flatten_cons, List.flatten_cons, offered_append, offered_append,
      hsame.written hlaunched₁.1 hlaunched₂.1 hfirst, ih hlaunched₁.2 hlaunched₂.2 hrest]

theorem asked_flatten_eq {parts₁ parts₂ : List (List Exchange)}
    (h : List.Forall₂ SameStep parts₁ parts₂) :
    reads parts₁.flatten = reads parts₂.flatten ∧
      launches parts₁.flatten = launches parts₂.flatten := by
  induction h with
  | nil => exact ⟨rfl, rfl⟩
  | cons hsame _ ih =>
    simp only [List.flatten_cons, reads_append, launches_append, hsame.read, hsame.launched, ih,
      and_self]

section
variable {σ₁ σ₂ δ : Type} {partners₁ : Surroundings σ₁} {partners₂ : Surroundings σ₂}
  {queue₁ : σ₁ → List Item} {queue₂ : σ₂ → List Item} {directory₁ : σ₁ → δ} {directory₂ : σ₂ → δ}
  {change : String → δ → Except IoError Unit × δ}

/-- Two runs over the same items and from the same directory go alike, whatever becomes of their
launches and whatever they find when the directory is to be shown. They write the same bytes if they
find the same and no launch fails. -/
theorem steps_alike (hqueue₁ : ReadsFrom partners₁ queue₁) (hqueue₂ : ReadsFrom partners₂ queue₂)
    (hdirectory₁ : HoldsDirectory partners₁ (fun _ => ()) directory₁ fun _ => change)
    (hdirectory₂ : HoldsDirectory partners₂ (fun _ => ()) directory₂ fun _ => change)
    (shell : Shell) (turns : Nat) (s₁ : σ₁) (s₂ : σ₂)
    (haccepts₁ : Accepts partners₁ (shell.steps turns) s₁)
    (haccepts₂ : Accepts partners₂ (shell.steps turns) s₂)
    (hitems : queue₁ s₁ = queue₂ s₂) (hstart : directory₁ s₁ = directory₂ s₂) :
    ∀ n ≤ turns,
      let said₁ := (shell.steps n).transcript partners₁ s₁
      let said₂ := (shell.steps n).transcript partners₂ s₂
      Alike partners₁ partners₂ queue₁ queue₂ directory₁ directory₂ shell n s₁ s₂ ∧
      reads said₁ = reads said₂ ∧ launches said₁ = launches said₂ ∧
      (AllLaunched said₁ → AllLaunched said₂ → shown said₁ = shown said₂ →
        offered said₁ = offered said₂) := by
  intro n hn said₁ said₂
  have halike := alike_of_le hqueue₁ hqueue₂ hdirectory₁ hdirectory₂ haccepts₁ haccepts₂ hitems
    hstart hn
  obtain ⟨parts₁, parts₂, -, -, hsaid₁, hsaid₂, hall⟩ := halike.steps
  obtain ⟨hreads, hlaunches⟩ := asked_flatten_eq hall
  simp only [said₁, said₂, hsaid₁, hsaid₂]
  exact ⟨halike, hreads, hlaunches, offered_flatten_eq hall⟩

end

/-- A directory that cannot be shown, failing launches and interrupts make no difference to what is
read, launched and entered. They do to what is written. -/
theorem steps_alike_broken :
    let shell : Shell := { user := "ada" }
    let queue : List Item := [.ok (.line "cd /tmp"), .ok (.line "ls | wc"), .ok (.line "cd gone"),
      .ok .interrupted, .ok (.line "exit")]
    let s₁ : Rehearsal.Stage := { queue, directory := { existing := ["/tmp"] } }
    let s₂ : Rehearsal.Stage :=
      { queue, directory := { existing := ["/tmp"], broken := true },
        launcher := { failure := some (.syscall .tryAgain), interrupts := 2 } }
    let said₁ := (shell.steps 5).transcript Rehearsal.Stage.partners s₁
    let said₂ := (shell.steps 5).transcript Rehearsal.Stage.partners s₂
    Alike Rehearsal.Stage.partners Rehearsal.Stage.partners (·.queue) (·.queue)
        (·.directory.intact) (·.directory.intact) shell 5 s₁ s₂ ∧
      launches said₁ = [.piped ⟨["ls"]⟩ ⟨["wc"]⟩] ∧ launches said₂ = launches said₁ ∧
      ((shell.steps 5).run Rehearsal.Stage.partners s₂).2.directory.current = "/tmp" ∧
      offered said₁ ≠ offered said₂ := by
  intro shell queue s₁ s₂ said₁ said₂
  have haccepts₁ := Rehearsal.Stage.accepts (s := s₁) rfl rfl (shell.steps 5)
  have haccepts₂ := Rehearsal.Stage.accepts (s := s₂) rfl rfl (shell.steps 5)
  obtain ⟨halike, -, hlaunches, -⟩ := steps_alike Rehearsal.Stage.readsFrom
    Rehearsal.Stage.readsFrom Rehearsal.Stage.holdsDirectory_intact
    Rehearsal.Stage.holdsDirectory_intact shell 5 s₁ s₂ haccepts₁ haccepts₂ rfl rfl 5
    (Nat.le_refl _)
  exact ⟨halike, by decide +kernel, hlaunches.symm, by decide +kernel, by decide +kernel⟩

end Shell
end PipeShell
