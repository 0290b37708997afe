import PipeShell.Proofs.Line.Runs
import PipeShell.Proofs.Rehearsal
import PipeShell.Proofs.Shell.Performing
import PipeShell.Proofs.Shell.Planning

/-! # What a line calls for

The plan of a line, read off the line itself: from its length, from the runs before and after its
first bar, and from the name that the first of them is (`Shell.called`). As long as the output
accepts what a builtin has to say, this is what planning comes to (`Planned.eq_called`), and the
builtin that the line calls is run once and nothing else is (`Planned.runsBuiltin`). -/

namespace PipeShell
open Line Interaction Output

/-- The tokens of a line: those before its first bar, and if there is a bar those after it. -/
structure Reading where
  first : List String
  second : Option (List String)

namespace Reading

def ofLine (line : String) : Reading where
  first := tokens (beforeBar line)
  second := (afterBar line).map tokens

/-- One of the stages has more tokens than this. -/
def Exceeds (r : Reading) (maxArgs : Nat) : Prop :=
  maxArgs < r.first.length ∨ ∃ second ∈ r.second, maxArgs < second.length

instance (r : Reading) (maxArgs : Nat) : Decidable (r.Exceeds maxArgs) :=
  inferInstanceAs (Decidable (_ ∨ _))

/-- The first token is there and is not the name of a builtin. -/
def CallsProgram (r : Reading) : Prop :=
  ∃ name ∈ r.first.head?, name ∉ ["cd", "exit", "help", "hello"]

/-- The builtin that the first token names. -/
def builtin? (r : Reading) : Option Builtin := r.first.head?.bind Builtin.ofName?

/-- What is left to do once a builtin has had its turn. -/
def plan (r : Reading) : Plan :=
  if r.first = [] then .nothing
  else match r.builtin? with
    | some .exit => .exit
    | some _ => .nothing
    | none => Shell.remaining ⟨r.first⟩ (r.second.map Argv.mk)

/-! ## Plans -/

theorem ofName?_eq_some_iff {name : String} {b : Builtin} :
    Builtin.ofName? name = some b ↔ b.name = name := by
  constructor
  · intro h
    simpa using List.find?_some h
  · rintro rfl
    exact Builtin.ofName?_name b

theorem ofName?_eq_none_iff {name : String} :
    Builtin.ofName? name = none ↔ name ∉ ["cd", "exit", "help", "hello"] := by
  have hnames : ["cd", "exit", "help", "hello"] = Builtin.all.map Builtin.name := rfl
  rw [hnames, Builtin.ofName?, List.find?_eq_none, List.mem_map]
  simp only [beq_iff_eq, not_exists, not_and]

variable {r : Reading}

/-- A line calls a program, calls a builtin, or has no first token. -/
theorem cases (r : Reading) :
    (r.CallsProgram ∧ r.first ≠ [] ∧ r.builtin? = none) ∨
      (∃ b, r.first.head? = some b.name ∧ r.builtin? = some b ∧ ¬ r.CallsProgram) ∨
      (r.first = [] ∧ ¬ r.CallsProgram) := by
  cases hfirst : r.first with
  | nil => exact .inr (.inr ⟨rfl, by simp [CallsProgram, hfirst]⟩)
  | cons name rest =>
    have hbuiltin : r.builtin? = Builtin.ofName? name := by simp [builtin?, hfirst]
    have hprogram : r.CallsProgram ↔ Builtin.ofName? name = none := by
      simp [CallsProgram, hfirst, ofName?_eq_none_iff]
    cases hname : Builtin.ofName? name with
    | none => exact .inl ⟨hprogram.mpr hname, List.cons_ne_nil _ _, hbuiltin.trans hname⟩
    | some b =>
      refine .inr (.inl ⟨b, ?_, hbuiltin.trans hname, fun h => ?_⟩)
      · rw [ofName?_eq_some_iff.mp hname, List.head?_cons]
      · rw [hprogram.mp h] at hname
        cases hname

theorem builtin?_of_callsProgram (h : r.CallsProgram) : r.builtin? = none := by
  rcases r.cases with ⟨-, -, hnone⟩ | ⟨b, -, -, hno⟩ | ⟨-, hno⟩
  · exact hnone
  · exact (hno h).elim
  · exact (hno h).elim

theorem plan_of_callsProgram (h : r.CallsProgram) :
    r.plan = Shell.remaining ⟨r.first⟩ (r.second.map Argv.mk) := by
  rcases r.cases with ⟨-, hne, hnone⟩ | ⟨b, -, -, hno⟩ | ⟨-, hno⟩
  · simp only [plan, hne, if_false, hnone]
  · exact (hno h).elim
  · exact (hno h).elim

theorem plan_of_builtin {b : Builtin} (h : r.builtin? = some b) :
    r.plan = if b = .exit then .exit else .nothing := by
  have hne : r.first ≠ [] := fun hnil => by simp [builtin?, hnil] at h
  cases b <;> simp [plan, hne, h]

theorem plan_of_first_eq_nil (h : r.first = []) : r.plan = .nothing := if_pos h

/-- A builtin leaves nothing to launch. -/
theorem plan_eq_launch_iff {command : Command} :
    r.plan = .launch command ↔
      r.CallsProgram ∧ Shell.remaining ⟨r.first⟩ (r.second.map Argv.mk) = .launch command := by
  rcases r.cases with ⟨hcalls, -, -⟩ | ⟨b, -, hb, hno⟩ | ⟨hnil, hno⟩
  · rw [plan_of_callsProgram hcalls, and_iff_right hcalls]
  · rw [plan_of_builtin hb]
    split <;> simp [hno]
  · simp [plan_of_first_eq_nil hnil, hno]

theorem plan_eq_single_iff {argv : Argv} :
    r.plan = .launch (.single argv) ↔ argv = ⟨r.first⟩ ∧ r.second = none ∧ r.CallsProgram := by
  rw [plan_eq_launch_iff]
  cases hsecond : r.second with
  | none => simp [Shell.remaining, and_comm, eq_comm]
  | some second => cases second <;> simp [Shell.remaining, Argv.isEmpty]

theorem plan_eq_piped_iff {left right : Argv} :
    r.plan = .launch (.piped left right) ↔
      left = ⟨r.first⟩ ∧ r.second = some right.tokens ∧ right.tokens ≠ [] ∧ r.CallsProgram := by
  rw [plan_eq_launch_iff]
  obtain ⟨tokens⟩ := right
  cases hsecond : r.second with
  | none => simp [Shell.remaining]
  | some second =>
    cases second with
    | nil => simp +contextual [Shell.remaining, Argv.isEmpty, eq_comm]
    | cons token rest =>
      simp only [Option.map_some, Shell.remaining, Argv.isEmpty, List.isEmpty_cons,
        Bool.false_eq_true, if_false, Plan.launch.injEq, Command.piped.injEq, Argv.mk.injEq,
        Option.some.injEq]
      constructor
      · rintro ⟨hcalls, rfl, rfl⟩
        exact ⟨rfl, rfl, List.cons_ne_nil _ _, hcalls⟩
      · rintro ⟨rfl, rfl, -, hcalls⟩
        exact ⟨hcalls, rfl, rfl⟩

theorem plan_eq_exit_iff : r.plan = .exit ↔ r.first.head? = some "exit" := by
  have hremaining : ∀ first second, Shell.remaining first second ≠ .exit := by
    intro first second
    unfold Shell.remaining
    split
    · nofun
    · split <;> nofun
  rcases r.cases with ⟨⟨name, hname, hfree⟩, -, -⟩ | ⟨b, hhead, hb, -⟩ | ⟨hnil, -⟩
  · rw [plan_of_callsProgram ⟨name, hname, hfree⟩, Option.mem_def.mp hname]
    refine iff_of_false (hremaining _ _) fun h => ?_
    simp [Option.some.inj h] at hfree
  · rw [plan_of_builtin hb, hhead]
    cases b <;> decide
  · simp [plan_of_first_eq_nil hnil, hnil]

theorem plan_eq_nothing_iff :
    r.plan = .nothing ↔
      r.first.head? ≠ some "exit" ∧ ¬ (r.CallsProgram ∧ r.second ≠ some []) := by
  rcases r.cases with ⟨hcalls, -, -⟩ | ⟨b, hhead, hb, hno⟩ | ⟨hnil, hno⟩
  · have hname : r.first.head? ≠ some "exit" := by
      obtain ⟨name, hname, hfree⟩ := hcalls
      rw [Option.mem_def.mp hname]
      rintro h
      simp [Option.some.inj h] at hfree
    rw [plan_of_callsProgram hcalls]
    cases hsecond : r.second with
    | none => simp [Shell.remaining, hcalls]
    | some second => cases second <;> simp [Shell.remaining, Argv.isEmpty, hcalls, hname]
  · rw [plan_of_builtin hb, hhead]
    cases b <;> simp [Builtin.name, hno]
  · simp [plan_of_first_eq_nil hnil, hnil, hno]

end Reading

namespace Shell

variable {shell : Shell} {line : String} {trace : List Exchange} {outcome : Except PlanError Plan}

/-- The stages are measured as the line reads. -/
theorem tokenize_ofLine (maxArgs : Nat) (line : String) :
    tokenize maxArgs (.ofLine line) =
      if (Reading.ofLine line).Exceeds maxArgs then .error (.tooManyArguments maxArgs)
      else .ok (⟨(Reading.ofLine line).first⟩, (Reading.ofLine line).second.map Argv.mk) := by
  rw [Stages.ofLine_eq]
  cases hbar : afterBar line with
  | none =>
    simp only [tokenize, Argv.ofStage_eq, ← beforeBar_of_afterBar_eq_none hbar, Reading.Exceeds,
      Reading.ofLine, hbar, Option.map_none]
    by_cases hfirst : maxArgs < (tokens (beforeBar line)).length <;> simp [hfirst]
  | some right =>
    simp only [tokenize, Argv.ofStage_eq, String.toList_ofList, Reading.Exceeds, Reading.ofLine,
      hbar, Option.map_some]
    by_cases hfirst : maxArgs < (tokens (beforeBar line)).length
    · simp [hfirst]
      rfl
    · by_cases hsecond : maxArgs < (tokens right).length <;> simp [hfirst, hsecond] <;> rfl

/-- The plan of a line, or why it has none. -/
def called (shell : Shell) (line : String) : Except Rejection Plan :=
  if shell.limits.maxLine < line.length then .error (.lineTooLong shell.limits.maxLine)
  else if (Reading.ofLine line).Exceeds shell.limits.maxArgs then
    .error (.tooManyArguments shell.limits.maxArgs)
  else .ok (Reading.ofLine line).plan

theorem called_eq_lineTooLong_iff {limit : Nat} :
    shell.called line = .error (.lineTooLong limit) ↔
      shell.limits.maxLine < line.length ∧ limit = shell.limits.maxLine := by
  unfold called
  grind

theorem called_eq_tooManyArguments_iff {limit : Nat} :
    shell.called line = .error (.tooManyArguments limit) ↔
      line.length ≤ shell.limits.maxLine ∧ (Reading.ofLine line).Exceeds shell.limits.maxArgs ∧
        limit = shell.limits.maxArgs := by
  unfold called
  grind

theorem called_eq_ok_iff {plan : Plan} :
    shell.called line = .ok plan ↔
      line.length ≤ shell.limits.maxLine ∧ ¬ (Reading.ofLine line).Exceeds shell.limits.maxArgs ∧
        (Reading.ofLine line).plan = plan := by
  unfold called
  grind

theorem checkLine_eq_error_iff {reason : Rejection} :
    shell.limits.checkLine line = .error reason ↔
      shell.limits.maxLine < line.length ∧ reason = .lineTooLong shell.limits.maxLine := by
  have hcheck : shell.limits.checkLine line =
      if shell.limits.maxLine < line.length then .error (.lineTooLong shell.limits.maxLine)
      else .ok () := rfl
  rw [hcheck]
  grind

theorem tokenize_eq_error_iff {reason : Rejection} :
    tokenize shell.limits.maxArgs (.ofLine line) = .error reason ↔
      (Reading.ofLine line).Exceeds shell.limits.maxArgs ∧
        reason = .tooManyArguments shell.limits.maxArgs := by
  rw [tokenize_ofLine]
  grind

theorem tokenize_eq_ok_iff {first : Argv} {second : Option Argv} :
    tokenize shell.limits.maxArgs (.ofLine line) = .ok (first, second) ↔
      ¬ (Reading.ofLine line).Exceeds shell.limits.maxArgs ∧
        first = ⟨(Reading.ofLine line).first⟩ ∧
        second = (Reading.ofLine line).second.map Argv.mk := by
  rw [tokenize_ofLine]
  grind

section
variable (shell : Shell) (line : String)

/-- The transcripts and outcomes of planning, by what the line reads as. -/
inductive Planned : List Exchange → Except PlanError Plan → Prop
  | tooLong : shell.limits.maxLine < line.length →
    Planned [] (.error (.rejected (.lineTooLong shell.limits.maxLine)))
  | tooMany : line.length ≤ shell.limits.maxLine →
    (Reading.ofLine line).Exceeds shell.limits.maxArgs →
    Planned [stagesNoted line] (.error (.rejected (.tooManyArguments shell.limits.maxArgs)))
  | silent : line.length ≤ shell.limits.maxLine →
    ¬ (Reading.ofLine line).Exceeds shell.limits.maxArgs →
    (Reading.ofLine line).builtin? = none →
    Planned [stagesNoted line] (.ok (Reading.ofLine line).plan)
  | builtin {b told result} : line.length ≤ shell.limits.maxLine →
    ¬ (Reading.ofLine line).Exceeds shell.limits.maxArgs →
    (Reading.ofLine line).builtin? = some b →
    b.Performing shell.user ⟨(Reading.ofLine line).first⟩ told result →
    Planned (stagesNoted line :: b.noted :: told)
      ((result.mapError .io).map fun _ => (Reading.ofLine line).plan)

end

/-- What planning says if it runs this builtin, or none. A builtin is run with the tokens of the
first stage. -/
def RunsBuiltin (shell : Shell) (line : String) (said : List Exchange) : Option Builtin → Prop
  | none => said = [] ∨ said = [stagesNoted line]
  | some b => ∃ told result, said = stagesNoted line :: b.noted :: told ∧
    b.Performing shell.user ⟨tokens (beforeBar line)⟩ told result

theorem Planning.planned (h : shell.Planning line trace outcome) :
    shell.Planned line trace outcome := by
  cases h with
  | tooLong hcheck =>
    obtain ⟨hlong, rfl⟩ := checkLine_eq_error_iff.mp hcheck
    exact .tooLong hlong
  | tooMany hcheck htokens =>
    obtain ⟨hmany, rfl⟩ := tokenize_eq_error_iff.mp htokens
    exact .tooMany (Limits.checkLine_eq_ok_iff.mp hcheck) hmany
  | empty hcheck htokens hempty =>
    obtain ⟨hfew, rfl, -⟩ := tokenize_eq_ok_iff.mp htokens
    have hnil : (Reading.ofLine line).first = [] := List.isEmpty_iff.mp hempty
    rw [← Reading.plan_of_first_eq_nil hnil]
    exact .silent (Limits.checkLine_eq_ok_iff.mp hcheck) hfew (by simp [Reading.builtin?, hnil])
  | @dispatched first second told answer hcheck htokens hempty hdispatch =>
    obtain ⟨hfew, rfl, rfl⟩ := tokenize_eq_ok_iff.mp htokens
    have hshort := Limits.checkLine_eq_ok_iff.mp hcheck
    have hargv : Builtin.ofArgv? ⟨(Reading.ofLine line).first⟩ =
        (Reading.ofLine line).builtin? := by
      simp [Builtin.ofArgv?, Argv.program, Reading.builtin?, List.head?_eq_getElem?]
    have hsaid := Builtin.holds_dispatch.mp hdispatch
    rw [hargv] at hsaid
    rcases (Reading.ofLine line).cases with ⟨hcalls, -, hnone⟩ | ⟨b, -, hb, -⟩ | ⟨hnil, -⟩
    · rw [hnone] at hsaid
      obtain ⟨rfl, rfl⟩ := hsaid
      have hplan := Reading.plan_of_callsProgram hcalls
      rw [afterDispatch, ← hplan]
      exact .silent hshort hfew hnone
    · rw [hb] at hsaid
      obtain ⟨told, rfl, htold⟩ := hsaid
      obtain ⟨result, hperforms, rfl⟩ := Builtin.Performing.of_holds htold
      have hplan := Reading.plan_of_builtin hb
      have hafter : afterDispatch ⟨(Reading.ofLine line).first⟩
          ((Reading.ofLine line).second.map Argv.mk) (result.map fun _ => b.dispatched) =
          (result.mapError .io).map fun _ => (Reading.ofLine line).plan := by
        rw [hplan]
        cases result <;> cases b <;> rfl
      rw [hafter]
      exact .builtin hshort hfew hb hperforms
    · simp [Argv.isEmpty, hnil] at hempty

namespace Planned

/-- Where the output accepts what it is told, a line comes to the plan that it calls for. -/
theorem eq_called (h : shell.Planned line trace outcome)
    (haccepted : Unfailing Exchange.failure trace) :
    outcome = (shell.called line).mapError .rejected := by
  cases h with
  | tooLong hlong =>
    rw [called_eq_lineTooLong_iff.mpr ⟨hlong, rfl⟩]
    rfl
  | tooMany hshort hmany =>
    rw [called_eq_tooManyArguments_iff.mpr ⟨hshort, hmany, rfl⟩]
    rfl
  | silent hshort hfew =>
    rw [called_eq_ok_iff.mpr ⟨hshort, hfew, rfl⟩]
    rfl
  | builtin hshort hfew _ hperforms =>
    obtain rfl := hperforms.eq_ok (unfailing_cons.mp (unfailing_cons.mp haccepted).2).2
    rw [called_eq_ok_iff.mpr ⟨hshort, hfew, rfl⟩]
    rfl

/-- A plan is the one that the line calls for, whatever the output answers, and the builtin of the
line, if it has one, has come to its end. -/
theorem of_ok {plan : Plan} (h : shell.Planned line trace (.ok plan)) :
    shell.called line = .ok plan ∧
      ((Reading.ofLine line).builtin? = none ∧ trace = [stagesNoted line] ∨
        ∃ b told, (Reading.ofLine line).builtin? = some b ∧
          trace = stagesNoted line :: b.noted :: told ∧
          b.Performing shell.user ⟨(Reading.ofLine line).first⟩ told (.ok ())) := by
  generalize houtcome : Except.ok plan = outcome at h
  cases h with
  | tooLong | tooMany => cases houtcome
  | silent hshort hfew hnone =>
    obtain rfl := Except.ok.inj houtcome
    exact ⟨called_eq_ok_iff.mpr ⟨hshort, hfew, rfl⟩, .inl ⟨hnone, rfl⟩⟩
  | @builtin b told result hshort hfew hb hperforms =>
    cases result with
    | error => cases houtcome
    | ok =>
      obtain rfl := Except.ok.inj houtcome
      exact ⟨called_eq_ok_iff.mpr ⟨hshort, hfew, rfl⟩, .inr ⟨b, told, hb, rfl, hperforms⟩⟩

/-- A line that is rejected has only had its stages counted. -/
theorem of_rejected {reason : Rejection}
    (h : shell.Planned line trace (.error (.rejected reason))) :
    shell.called line = .error reason ∧ (trace = [] ∨ trace = [stagesNoted line]) := by
  generalize houtcome : Except.error (PlanError.rejected reason) = outcome at h
  cases h with
  | tooLong hlong =>
    cases houtcome
    exact ⟨called_eq_lineTooLong_iff.mpr ⟨hlong, rfl⟩, .inl rfl⟩
  | tooMany hshort hmany =>
    cases houtcome
    exact ⟨called_eq_tooManyArguments_iff.mpr ⟨hshort, hmany, rfl⟩, .inr rfl⟩
  | silent => cases houtcome
  | @builtin _ _ result => cases result <;> cases houtcome

theorem runsBuiltin (h : shell.Planned line trace outcome) : RunsBuiltin shell line trace
    (if line.length ≤ shell.limits.maxLine ∧ ¬ (Reading.ofLine line).Exceeds shell.limits.maxArgs
      then (Reading.ofLine line).builtin? else none) := by
  cases h with
  | tooLong hlong =>
    rw [if_neg fun hwithin => absurd hwithin.1 (Nat.not_le.mpr hlong)]
    exact .inl rfl
  | tooMany hshort hmany =>
    rw [if_neg fun hwithin => hwithin.2 hmany]
    exact .inr rfl
  | silent hshort hfew hnone =>
    rw [if_pos ⟨hshort, hfew⟩, hnone]
    exact .inr rfl
  | builtin hshort hfew hb hperforms =>
    rw [if_pos ⟨hshort, hfew⟩, hb]
    exact ⟨_, _, rfl, hperforms⟩

end Planned

/-- Planning agrees with the line as it reads, and runs the builtin that the first token names once
and no other. -/
theorem plan_agrees_with_reading {σ : Type} (partners : Surroundings σ) (shell : Shell)
    (line : String) (s : σ) (haccepts : Accepts partners (shell.plan line).run s) :
    let first := tokens (beforeBar line)
    let second := (afterBar line).map tokens
    let outcome := ((shell.plan line).run.run partners s).1
    let said := (shell.plan line).run.transcript partners s
    let tooLong := shell.limits.maxLine < line.length
    let tooMany := shell.limits.maxArgs < first.length ∨
      ∃ tokens ∈ second, shell.limits.maxArgs < tokens.length
    let callsProgram := ∃ name ∈ first.head?, name ∉ ["cd", "exit", "help", "hello"]
    (∀ limit, outcome = .error (.rejected (.lineTooLong limit)) ↔
      tooLong ∧ limit = shell.limits.maxLine) ∧
    (∀ limit, outcome = .error (.rejected (.tooManyArguments limit)) ↔
      ¬ tooLong ∧ tooMany ∧ limit = shell.limits.maxArgs) ∧
    (¬ tooLong → ¬ tooMany →
      (∀ argv, outcome = .ok (.launch (.single argv)) ↔
        argv = ⟨first⟩ ∧ second = none ∧ callsProgram) ∧
      (∀ left right, outcome = .ok (.launch (.piped left right)) ↔
        left = ⟨first⟩ ∧ second = some right.tokens ∧ right.tokens ≠ [] ∧ callsProgram) ∧
      (outcome = .ok .exit ↔ first.head? = some "exit") ∧
      (outcome = .ok .nothing ↔
        first.head? ≠ some "exit" ∧ ¬ (callsProgram ∧ second ≠ some []))) ∧
    RunsBuiltin shell line said
      (if ¬ tooLong ∧ ¬ tooMany then first.head?.bind Builtin.ofName? else none) := by
  intro first second outcome said tooLong tooMany callsProgram
  have hplanned : shell.Planned line said outcome :=
    (Planning.of_holds (holds_transcript partners _ s)).planned
  have houtcome : outcome = (shell.called line).mapError .rejected :=
    hplanned.eq_called haccepts
  have hrejected : ∀ reason, outcome = .error (.rejected reason) ↔
      shell.called line = .error reason := by
    intro reason
    rw [houtcome]
    cases shell.called line <;> simp [Except.mapError]
  have hok : ∀ plan, outcome = .ok plan ↔ shell.called line = .ok plan := by
    intro plan
    rw [houtcome]
    cases shell.called line <;> simp [Except.mapError]
  refine ⟨fun limit => (hrejected _).trans called_eq_lineTooLong_iff, fun limit => ?_,
    fun hshort hfew => ?_, ?_⟩
  · rw [hrejected, called_eq_tooManyArguments_iff, ← Nat.not_lt]
    rfl
  · have hcalled : shell.called line = .ok (Reading.ofLine line).plan :=
      called_eq_ok_iff.mpr ⟨Nat.not_lt.mp hshort, hfew, rfl⟩
    have hplan : ∀ plan, outcome = .ok plan ↔ (Reading.ofLine line).plan = plan := by
      intro plan
      rw [hok, hcalled, Except.ok.injEq]
    exact ⟨fun _ => (hplan _).trans Reading.plan_eq_single_iff,
      fun _ _ => (hplan _).trans Reading.plan_eq_piped_iff,
      (hplan _).trans Reading.plan_eq_exit_iff, (hplan _).trans Reading.plan_eq_nothing_iff⟩
  · have hruns := hplanned.runsBuiltin
    simp only [← Nat.not_lt] at hruns
    exact hruns

/-- Two stages, a token that starts with a blank other than the space, and a second bar. -/
theorem plan_agrees_with_reading_piped :
    let shell : Shell := { limits := { maxArgs := 2 } }
    let line := "\u00a0ls  -l|wc |"
    Accepts Rehearsal.Stage.partners (shell.plan line).run {} ∧
      line.length ≤ shell.limits.maxLine ∧
      ((shell.plan line).run.run Rehearsal.Stage.partners {}).1 =
        .ok (.launch (.piped ⟨["\u00a0ls", "-l"]⟩ ⟨["wc", "|"]⟩)) := by
  intro shell line
  have haccepts : Accepts Rehearsal.Stage.partners (shell.plan line).run {} :=
    Rehearsal.Stage.accepts rfl rfl _
  have hfirst : tokens (beforeBar line) = ["\u00a0ls", "-l"] := by decide +kernel
  have hsecond : (afterBar line).map tokens = some ["wc", "|"] := by decide +kernel
  have hshort : line.length ≤ shell.limits.maxLine := by decide +kernel
  obtain ⟨-, -, hplan, -⟩ :=
    plan_agrees_with_reading Rehearsal.Stage.partners shell line {} haccepts
  rw [hfirst, hsecond] at hplan
  obtain ⟨-, hpiped, -⟩ := hplan (Nat.not_lt.mpr hshort) (by decide)
  exact ⟨haccepts, hshort, (hpiped _ _).mpr ⟨rfl, rfl, by decide, "\u00a0ls", rfl, by decide⟩⟩

end Shell
end PipeShell
