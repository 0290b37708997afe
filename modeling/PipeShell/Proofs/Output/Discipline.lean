import PipeShell.Proofs.Output.Delivery
import PipeShell.Shell.Step

/-! # Disciplines

A discipline is a condition on transcripts that sequences inherit: what is allowed when the output
has not failed can be followed by anything that is allowed (`Obeys.bind`). It is enough, then, to
allow the single exchanges of which a program is made (`Discipline.Admits`), and each program needs
only one look to see which those are (`Builtin.dispatch_obeys`, `Shell.showDirectory_obeys`).

`faithful` is the discipline that all programs obey: the transcript fails exactly when the program
does, and nothing is said after that. -/

namespace PipeShell

/-- A condition on what is said, given the failure of the output if it has failed. -/
structure Discipline where
  Allows : List Exchange → Option IoError → Prop
  nil : Allows [] none
  append : ∀ {trace₁ trace₂ e?}, Allows trace₁ none → Allows trace₂ e? →
    Allows (trace₁ ++ trace₂) e?

namespace Discipline

/-- Whether an exchange is allowed by itself. -/
def Admits (D : Discipline) (x : Exchange) : Prop := D.Allows [x] x.failure

/-- The output fails at most once, and at the end. -/
def faithful : Discipline where
  Allows trace e? := Concludes Exchange.failure trace e?
  nil := unfailing_nil
  append h₁ h₂ := h₂.append h₁

theorem faithful_admits (x : Exchange) : faithful.Admits x := concludes_singleton

/-- Each exchange satisfies a condition. -/
def only (P : Exchange → Prop) : Discipline where
  Allows trace _ := ∀ x ∈ trace, P x
  nil := nofun
  append h₁ h₂ := List.forall_mem_append.mpr ⟨h₁, h₂⟩

theorem only_admits {P : Exchange → Prop} {x : Exchange} : (only P).Admits x ↔ P x :=
  List.forall_mem_singleton

end Discipline

namespace Output
open Interaction

variable {α β : Type} {D : Discipline}

/-- All transcripts of a program are allowed. -/
def Obeys (D : Discipline) (m : Output α) : Prop :=
  ∀ trace result, m.run.Holds trace result → D.Allows trace (failureOf result)

namespace Obeys

theorem pure (a : α) : Obeys D (Pure.pure a) := by
  intro trace result h
  obtain ⟨rfl, rfl⟩ := holds_run_pure.mp h
  exact D.nil

theorem bind {m : Output α} {f : α → Output β} (hm : m.Obeys D) (hf : ∀ a, (f a).Obeys D) :
    (m >>= f).Obeys D := by
  intro trace result h
  rcases holds_run_bind.mp h with ⟨e, hfails, rfl⟩ | ⟨t₁, t₂, a, rfl, h₁, h₂⟩
  · exact hm _ _ hfails
  · exact D.append (hm _ _ h₁) (hf a _ _ h₂)

theorem forIn {γ : Type} (l : List γ) (b : β) {f : γ → β → Output (ForInStep β)}
    (hf : ∀ c b, (f c b).Obeys D) : (forIn l b f).Obeys D := by
  induction l generalizing b with
  | nil => exact .pure b
  | cons c l ih =>
    rw [List.forIn_cons]
    refine (hf c b).bind fun step => ?_
    cases step with
    | done b => exact .pure b
    | yield b => exact ih b

/-- A program of one exchange fails as that does. -/
theorem of_admits {m : Output α} (hm : ∀ trace result, m.run.Holds trace result →
    ∃ x, trace = [x] ∧ x.failure = failureOf result ∧ D.Admits x) : m.Obeys D := by
  intro trace result h
  obtain ⟨x, rfl, hx, hadmits⟩ := hm _ _ h
  rw [← hx]
  exact hadmits

theorem writeLine {text : String} (hD : ∀ answer, D.Admits (.write (text ++ "\n") answer)) :
    (writeLine text).Obeys D := of_admits fun _ result h => by
  cases result <;> exact ⟨_, holds_writeLine.mp h, rfl, hD _⟩

theorem flush (hD : ∀ answer, D.Admits (.flush answer)) : flush.Obeys D :=
  of_admits fun _ result h => by cases result <;> exact ⟨_, holds_flush.mp h, rfl, hD _⟩

/-- A question to another partner cannot fail. -/
theorem of_ask {m : Output α} {ask : α → Exchange} (hm : ∀ trace result,
      m.run.Holds trace result ↔ ∃ answer, trace = [ask answer] ∧ result = .ok answer)
    (hask : ∀ answer, (ask answer).failure = none) (hD : ∀ answer, D.Admits (ask answer)) :
    m.Obeys D := of_admits fun _ _ h => by
  obtain ⟨answer, rfl, rfl⟩ := (hm _ _).mp h
  exact ⟨_, rfl, hask answer, hD answer⟩

theorem currentDir (hD : ∀ answer, D.Admits (.currentDir answer)) : currentDir.Obeys D :=
  of_ask (fun _ _ => holds_currentDir) (fun _ => rfl) hD

theorem changeDir {target : String} (hD : ∀ answer, D.Admits (.changeDir target answer)) :
    (changeDir target).Obeys D := of_ask (fun _ _ => holds_changeDir) (fun _ => rfl) hD

theorem launch {command : Command} (hD : ∀ answer, D.Admits (.launch command answer)) :
    (launch command).Obeys D := of_ask (fun _ _ => holds_launch) (fun _ => rfl) hD

theorem interrupts (hD : ∀ count, D.Admits (.interrupts count)) : interrupts.Obeys D :=
  of_ask (fun _ _ => holds_interrupts) (fun _ => rfl) hD

theorem note {source : Log.Source} {level : Log.Level} {text : String}
    (hD : D.Admits (.log ⟨source, level, text⟩)) : (note source level text).Obeys D :=
  of_admits fun _ _ h => by
    obtain ⟨rfl, rfl⟩ := holds_note.mp h
    exact ⟨_, rfl, rfl, hD⟩

end Obeys
end Output

/-! ## Builtins -/

namespace Exchange

/-- What a program says that only reports: writes and records. -/
def isReport : Exchange → Bool
  | write .. | log _ => true
  | _ => false

/-- What a builtin says. -/
def isBuiltin : Exchange → Bool
  | changeDir .. => true
  | x => x.isReport

end Exchange

namespace Builtin
open Output

variable {D : Discipline}

theorem runHelp_obeys (hD : ∀ x, x.isReport = true → D.Admits x) : runHelp.Obeys D := by
  have hline : ∀ text, (writeLine text).Obeys D := fun text => .writeLine fun _ => hD _ rfl
  exact .bind (hline _) fun _ =>
    .bind (.forIn _ _ fun _ _ => .bind (hline _) fun _ => .pure _) fun _ => .pure ()

theorem runCd_obeys (argv : Argv) (hD : ∀ x, x.isBuiltin = true → D.Admits x) :
    (runCd argv).Obeys D := by
  have hline : ∀ text, (writeLine text).Obeys D := fun text => .writeLine fun _ => hD _ rfl
  unfold runCd
  split
  · exact hline _
  · refine .bind (.changeDir fun _ => hD _ rfl) fun answer => ?_
    cases answer with
    | ok => exact .pure ()
    | error e => exact hline _

theorem dispatch_obeys (user : String) (argv : Argv) (hD : ∀ x, x.isBuiltin = true → D.Admits x) :
    (dispatch user argv).Obeys D := by
  have hline : ∀ text, (writeLine text).Obeys D := fun text => .writeLine fun _ => hD _ rfl
  have hreport : ∀ x, x.isReport = true → D.Admits x := fun x h => hD x (by cases x <;> simp_all
    [Exchange.isReport, Exchange.isBuiltin])
  unfold dispatch
  cases ofArgv? argv with
  | none => exact .pure _
  | some b =>
    refine .bind (.note (hD _ rfl)) fun _ => ?_
    cases b with
    | exit => exact .bind (hline _) fun _ => .pure _
    | cd => exact .bind (runCd_obeys argv hD) fun _ => .pure _
    | help => exact .bind (runHelp_obeys hreport) fun _ => .pure _
    | hello => exact .bind (hline _) fun _ => .pure _

end Builtin

/-! ## Steps -/

namespace Shell
open Output

variable {D : Discipline}

theorem showDirectory_obeys (hcurrent : ∀ answer, D.Admits (.currentDir answer))
    (houtput : ∀ x, x.isOutput = true → D.Admits x) : showDirectory.Obeys D := by
  have hrest : ∀ text, Obeys D (do writeLine text; flush) := fun text =>
    .bind (.writeLine fun _ => houtput _ rfl) fun _ => .flush fun _ => houtput _ rfl
  refine .bind (.currentDir hcurrent) fun answer => ?_
  cases answer <;> exact hrest _

theorem launch_obeys {command : Command} (hlaunch : ∀ answer, D.Admits (.launch command answer))
    (hinterrupts : ∀ count, D.Admits (.interrupts count))
    (hreport : ∀ x, x.isReport = true → D.Admits x) : (launch command).Obeys D := by
  refine .bind (.interrupts hinterrupts) fun before => .bind (.launch hlaunch) fun answer => ?_
  have hrest : Obeys D (do
      let after ← interrupts
      if after != before then
        note .interpreter .info s!"interrupted while waiting for {command.shown}") := by
    refine .bind (.interrupts hinterrupts) fun after => ?_
    split
    · exact .note (hreport _ rfl)
    · exact .pure ()
  cases answer with
  | ok children =>
    have hchild : ∀ (child : Child) (u : PUnit), Obeys D (do
        note .interpreter .debug s!"child {child.pid} finished with {child.shownStatus}"
        return ForInStep.yield u) := fun _ _ => .bind (.note (hreport _ rfl)) fun _ => .pure _
    exact .bind (.forIn _ _ hchild) fun _ => hrest
  | error e => exact .bind (.writeLine fun _ => hreport _ rfl) fun _ => hrest

end Shell
end PipeShell
