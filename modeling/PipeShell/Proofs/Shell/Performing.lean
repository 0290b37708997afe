import PipeShell.Proofs.Output.Discipline

/-! # What a builtin does

All that a builtin can say and how it ends (`Performing`): it writes its lines, and `cd` asks once
for another directory before it has anything to complain of. Offering a stage to the builtins runs
the one that its first token names, or says nothing (`holds_dispatch`). -/

namespace PipeShell
open Interaction Output

/-- Writes texts until one is not accepted. -/
inductive Writing : List String → List Exchange → Except IoError Unit → Prop
  | done : Writing [] [] (.ok ())
  | refused {text texts e} : Writing (text :: texts) [.write text (.error e)] (.error e)
  | accepted {text texts trace result} : Writing texts trace result →
    Writing (text :: texts) (.write text (.ok ()) :: trace) result

namespace Writing

variable {texts : List String} {trace : List Exchange} {result : Except IoError Unit}

theorem of_writeLine {text : String} (h : (writeLine text).run.Holds trace result) :
    Writing [text ++ "\n"] trace result := by
  obtain rfl := holds_writeLine.mp h
  cases result with
  | error e => exact .refused
  | ok => exact .accepted .done

/-- One line and then others. -/
theorem of_writeLine_bind {text : String} {f : Unit → Output Unit}
    (hf : ∀ trace result, (f ()).run.Holds trace result → Writing texts trace result)
    (h : (writeLine text >>= f).run.Holds trace result) :
    Writing ((text ++ "\n") :: texts) trace result := by
  rcases holds_run_bind.mp h with ⟨e, hwrite, rfl⟩ | ⟨t₁, t₂, _, rfl, hwrite, hrest⟩
  · obtain rfl := holds_writeLine.mp hwrite
    exact .refused
  · obtain rfl := holds_writeLine.mp hwrite
    exact .accepted (hf _ _ hrest)

/-- A loop that writes one line for each element. -/
theorem of_forIn {γ : Type} {l : List γ} {text : γ → String}
    (h : (forIn l PUnit.unit fun c _ => do
      writeLine (text c)
      return ForInStep.yield PUnit.unit : Output PUnit).run.Holds trace result) :
    Writing (l.map fun c => text c ++ "\n") trace result := by
  induction l generalizing trace result with
  | nil =>
    obtain ⟨rfl, rfl⟩ := holds_run_pure.mp h
    exact .done
  | cons c l ih =>
    rw [List.forIn_cons, LawfulMonad.bind_assoc] at h
    refine of_writeLine_bind (fun trace result hrest => ?_) h
    rw [LawfulMonad.pure_bind] at hrest
    exact ih hrest

theorem concludes (h : Writing texts trace result) :
    Concludes Exchange.failure trace (failureOf result) := by
  induction h with
  | done => exact unfailing_nil
  | refused => exact concludes_singleton
  | accepted _ ih => exact ih.cons rfl

end Writing

namespace Builtin

variable {user : String} {argv : Argv} {b : Builtin} {trace : List Exchange}

/-- The part of a dispatch that is left to a builtin. -/
def perform (user : String) (argv : Argv) : Builtin → Output Dispatch
  | exit => do runExit; return .exit
  | cd => do runCd argv; return .handled
  | help => do runHelp; return .handled
  | hello => do runHello user; return .handled

/-- What becomes of a stage that calls the builtin. -/
def dispatched : Builtin → Dispatch
  | exit => .exit
  | cd | help | hello => .handled

/-- The record that a dispatch makes of a builtin. -/
def noted (b : Builtin) : Exchange := .log ⟨.builtin, .debug, s!"builtin {b.name}"⟩

/-- The first token decides which builtin is run, if one is. -/
theorem holds_dispatch {result : Except IoError Dispatch} :
    (dispatch user argv).run.Holds trace result ↔
      match ofArgv? argv with
      | none => trace = [] ∧ result = .ok .notHandled
      | some b =>
        ∃ told, trace = b.noted :: told ∧ (b.perform user argv).run.Holds told result := by
  unfold dispatch
  cases ofArgv? argv with
  | none => exact holds_run_pure
  | some b => cases b <;> exact holds_note_bind

/-- The lines of a builtin that only has something to say. -/
def lines (user : String) : Builtin → List String
  | exit => ["\nGoodbye!\n"]
  | help => "\nAvailable commands:\n" :: all.map fun b => s!" - {b.name}" ++ "\n"
  | hello => [s!"\nHello, {user}! This is your custom shell." ++ "\n"]
  | cd => ["cd failed: missing directory operand\n"]

/-- What is said of a directory that could not be entered. -/
def cdFailed (target : String) (e : IoError) : String :=
  s!"cd failed: {target}: {e.message}" ++ "\n"

/-- The transcripts and outcomes of builtins. -/
inductive Performing (user : String) (argv : Argv) :
    Builtin → List Exchange → Except IoError Unit → Prop
  | moved {target} : argv.arg 1 = some target →
    Performing user argv cd [.changeDir target (.ok ())] (.ok ())
  | unmoved {target e trace result} : argv.arg 1 = some target →
    Writing [cdFailed target e] trace result →
    Performing user argv cd (.changeDir target (.error e) :: trace) result
  | told {b trace result} : (b = cd → argv.arg 1 = none) → Writing (b.lines user) trace result →
    Performing user argv b trace result

theorem Performing.of_holds {result : Except IoError Dispatch}
    (h : (b.perform user argv).run.Holds trace result) :
    ∃ told, Performing user argv b trace told ∧ result = told.map fun _ => b.dispatched := by
  cases b with
  | exit =>
    obtain ⟨told, hwrite, rfl⟩ := holds_run_bind_pure.mp h
    exact ⟨told, .told nofun (.of_writeLine hwrite), rfl⟩
  | hello =>
    obtain ⟨told, hwrite, rfl⟩ := holds_run_bind_pure.mp h
    exact ⟨told, .told nofun (.of_writeLine hwrite), rfl⟩
  | help =>
    obtain ⟨told, hwrite, rfl⟩ := holds_run_bind_pure.mp h
    refine ⟨told, .told nofun (.of_writeLine_bind (fun trace result hlist => ?_) hwrite), rfl⟩
    rw [bind_pure] at hlist
    exact .of_forIn hlist
  | cd =>
    obtain ⟨told, hcd, rfl⟩ := holds_run_bind_pure.mp h
    refine ⟨told, ?_, rfl⟩
    unfold runCd at hcd
    split at hcd
    · rename_i hnone
      exact .told (fun _ => hnone) (.of_writeLine hcd)
    · rename_i target htarget
      obtain ⟨answer, rest, rfl, hrest⟩ := holds_changeDir_bind.mp hcd
      cases answer with
      | ok =>
        obtain ⟨rfl, rfl⟩ := holds_run_pure.mp hrest
        exact .moved htarget
      | error e => exact .unmoved htarget (.of_writeLine hrest)

namespace Performing

variable {told : Except IoError Unit}

theorem concludes (h : Performing user argv b trace told) :
    Concludes Exchange.failure trace (failureOf told) := by
  cases h with
  | moved => exact concludes_singleton
  | unmoved _ hwriting => exact hwriting.concludes.cons rfl
  | told _ hwriting => exact hwriting.concludes

/-- What the output accepts comes to its end. -/
theorem eq_ok (h : Performing user argv b trace told)
    (haccepted : Unfailing Exchange.failure trace) : told = .ok () := by
  have hconcludes := h.concludes
  cases told with
  | ok => rfl
  | error e =>
    obtain ⟨x, hx, hfails⟩ := StopsWith.exists_mem hconcludes
    rw [haccepted x hx] at hfails
    cases hfails

end Performing

end Builtin
end PipeShell
