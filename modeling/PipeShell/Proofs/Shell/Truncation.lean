import PipeShell.Proofs.Rehearsal
import PipeShell.Proofs.Shell.Reading
import PipeShell.Proofs.Shell.Stepping

/-! # Truncated runs

A run over an output that takes a number of bytes and then fails, next to the same run over one that
takes everything. The two go alike up to the step in which the limit is exceeded. In that step the
first run stops: it reads and launches nothing after the text that was not taken, and leaves the
directory as the step has found it (`steps_truncated`). -/

namespace PipeShell
open Text (utf8)

namespace Shell
open Interaction Output

variable {shell : Shell} {line : String} {plan : Plan} {command : Command}
  {trace told rest : List Exchange} {flow : Flow} {text : String} {e : IoError}

/-! ## The step that fails -/

theorem utf8_refusal_ne_nil (e : PlanError) : utf8 (refusal e) ≠ [] := by
  intro hnil
  rw [refusal, Text.utf8_append, List.append_eq_nil_iff] at hnil
  exact absurd hnil.2 (by decide)

/-- After a write that has failed, an output that takes nothing more ends the session. -/
theorem step_stops (h : shell.step.Holds (told ++ .write text (.error e) :: rest) flow)
    (htold : Unfailing Exchange.failure told)
    (hrest : ∀ text, utf8 text ≠ [] → .write text (.ok ()) ∉ rest) :
    flow = .exit ∧ Silent rest := by
  have hfails : (Exchange.write text (.error e)).failure ≠ none := nofun
  obtain ⟨t₁, t₂, result, hsaid, htry, hend⟩ := holds_bind.mp h
  rcases tryStep_concludes htry with hconcludes | ⟨rest₁, e₁, hplanning⟩
  · cases result with
    | ok value =>
      obtain ⟨rfl, -⟩ := holds_conclude.mp hend
      have hmem : Exchange.write text (.error e) ∈ t₁ ++ [] := hsaid ▸ by simp
      rw [List.append_nil] at hmem
      exact (hfails (hconcludes _ hmem)).elim
    | error e₀ =>
      obtain ⟨rfl, rfl⟩ := holds_conclude.mp hend
      obtain ⟨before, x, rfl, hbefore, hx⟩ := hconcludes
      rw [List.append_assoc, List.singleton_append] at hsaid
      obtain ⟨-, -, rfl⟩ := Unfailing.first_unique hsaid htold hbefore hfails (by simp [hx])
      exact ⟨rfl, silent_cons.mpr ⟨rfl, silent_nil⟩⟩
  · have hplanning : shell.FailsInPlanning (t₁ ++ t₂) (rest₁ ++ t₂) e₁ := hplanning.append
    rw [← hsaid] at hplanning
    obtain ⟨_, heq, before, x, rfl, hbefore, hx⟩ := hplanning.stopsWith
    rw [List.append_assoc, List.singleton_append] at heq
    obtain ⟨-, -, rfl⟩ := Unfailing.first_unique heq htold hbefore hfails (by simp [hx])
    rcases hplanning.outcome h with ⟨htaken, -⟩ | ⟨e', htold, rfl⟩
    · refine (hrest _ (utf8_refusal_ne_nil (.io e₁)) ?_).elim
      rw [htaken]
      exact .tail _ (.head _)
    · rw [htold]
      exact ⟨rfl, silent_cons.mpr ⟨rfl, silent_cons.mpr ⟨rfl, silent_cons.mpr ⟨rfl, silent_nil⟩⟩⟩⟩

/-- Before a command is launched, planning has only counted the stages. -/
theorem Planned.eq_of_launch (h : shell.Planned line told (.ok (.launch command))) :
    told = [stagesNoted line] := by
  obtain ⟨hcalled, ⟨-, rfl⟩ | ⟨b, -, hb, -⟩⟩ := h.of_ok
  · rfl
  · have hplan := (called_eq_ok_iff.mp hcalled).2.2
    rw [Reading.plan_of_builtin hb] at hplan
    cases b <;> cases hplan

/-- A line that has changed the directory has nothing more to write. -/
theorem Acting.moves_eq_false {result : Except IoError Flow} (h : Acting shell line trace result)
    (hfails : .write text (.error e) ∈ trace) : ∀ x ∈ trace, x.moves = false := by
  cases h with
  | blank => cases hfails
  | refused _ hplanning =>
    refine List.forall_mem_append.mpr ⟨hplanning.moves_eq_false, ?_⟩
    simp [lineRefused, Exchange.moves]
  | @planned told plan trace _ _ hplanning hcarried =>
    have htold : Unfailing Exchange.failure told := hplanning.concludes
    have hfails : .write text (.error e) ∈ trace := by
      refine (List.mem_append.mp hfails).resolve_left fun hmem => ?_
      cases htold _ hmem
    cases hcarried with
    | unflushed | nothing | exit => simp [planNoted] at hfails
    | launch hrunning =>
      rw [hplanning.planned.eq_of_launch]
      simp only [List.forall_mem_append, List.forall_mem_cons]
      exact ⟨⟨rfl, List.forall_mem_nil _⟩, rfl, rfl,
        fun x hx => Exchange.moves_eq_false (hrunning.stays x hx)⟩

/-- A step of which a text was not taken has not changed the directory. -/
theorem Stepping.moves_eq_false (h : Stepping shell trace flow)
    (hfails : .write text (.error e) ∈ trace) : ∀ x ∈ trace, x.moves = false := by
  have htrying : ∀ {said result}, Trying shell said result → .write text (.error e) ∈ said →
      ∀ x ∈ said, x.moves = false := by
    intro said result htrying hfails
    cases htrying with
    | unshown hshowing => exact fun x hx => Exchange.moves_eq_false (hshowing.stays x hx)
    | @read shown item rest _ hshowing hresponding =>
      refine List.forall_mem_append.mpr
        ⟨fun x hx => Exchange.moves_eq_false (hshowing.stays x hx),
          List.forall_mem_cons.mpr ⟨rfl, ?_⟩⟩
      cases hresponding with
      | line hacting =>
        cases hshowing with
        | written =>
          have hline : .write text (.error e) ∈ rest := by simpa using hfails
          exact hacting.moves_eq_false hline
      | interrupted | endOfInput | failed => exact List.forall_mem_singleton.mpr rfl
  cases h with
  | went h => exact htrying h hfails
  | stopped h =>
    refine List.forall_mem_append.mpr ⟨htrying h ?_, List.forall_mem_singleton.mpr rfl⟩
    simpa [outputFailed] using hfails

/-! ## Runs -/

section
open Outlet

variable {σ ω₁ ω₂ : Type}

section
variable (partners : Surroundings σ) (full : Outlet ω₁) (cut : Outlet ω₂)
  (taken : ω₁ → List UInt8) (limit : Nat) (shell : Shell) (turns : Nat) (s : σ) (w₁ : ω₁) (w₂ : ω₂)

/-- The run over the second output stops in the step after these, the one in which the first output
takes more than the limit. Up to the text that exceeds it the two say the same; after it, nothing is
read and nothing launched, and the directory is the one with which the step began. -/
structure StopsAfter (steps : Nat) : Prop where
  lt : steps < turns
  within : (taken ((shell.steps steps).run (partners.withOutlet full) (s, w₁)).2.2).length ≤ limit
  exceeds : limit <
    (taken ((shell.steps (steps + 1)).run (partners.withOutlet full) (s, w₁)).2.2).length
  stops : ((shell.steps turns).run (partners.withOutlet cut) (s, w₂)).1 = .exit
  said : ∃ told text e later rest,
    (shell.steps turns).transcript (partners.withOutlet full) (s, w₁) =
      (shell.steps steps).transcript (partners.withOutlet full) (s, w₁) ++
        (told ++ .write text (.ok ()) :: later) ∧
    (shell.steps turns).transcript (partners.withOutlet cut) (s, w₂) =
      (shell.steps steps).transcript (partners.withOutlet full) (s, w₁) ++
        (told ++ .write text (.error e) :: rest) ∧
    shell.step.Holds (told ++ .write text (.error e) :: rest) .exit ∧ Silent rest ∧
    limit < (taken w₁ ++
      offered ((shell.steps steps).transcript (partners.withOutlet full) (s, w₁) ++ told) ++
      utf8 text).length
  directory : ∀ {δ : Type} (directory : σ → δ), MovesOnly partners directory →
    directory ((shell.steps turns).run (partners.withOutlet cut) (s, w₂)).2.1 =
      directory ((shell.steps steps).run (partners.withOutlet full) (s, w₁)).2.1

end

variable {partners : Surroundings σ} {full : Outlet ω₁} {cut : Outlet ω₂} {limit : Nat}
  {taken₁ : ω₁ → List UInt8} {taken₂ : ω₂ → List UInt8} {Ready₁ : ω₁ → Prop} {Ready₂ : ω₂ → Prop}
  {turns : Nat} {s : σ} {w₁ : ω₁} {w₂ : ω₂}

/-- The run stops in its first step. -/
theorem StopsAfter.of_parted (hfull : full.Takes none taken₁ Ready₁) (h₁ : Ready₁ w₁)
    {told later rest : List Exchange} {text : String} {e : IoError}
    (hwithin : (taken₁ w₁).length ≤ limit)
    (hexceeds : limit < (taken₁ w₁ ++ offered told ++ utf8 text).length)
    (htold : Unfailing Exchange.failure told)
    (hrest : ∀ text, utf8 text ≠ [] → .write text (.ok ()) ∉ rest)
    (hsaid₁ : shell.step.transcript (partners.withOutlet full) (s, w₁) =
      told ++ .write text (.ok ()) :: later)
    (hsaid₂ : shell.step.transcript (partners.withOutlet cut) (s, w₂) =
      told ++ .write text (.error e) :: rest) :
    StopsAfter partners full cut taken₁ limit shell (turns + 1) s w₁ w₂ 0 := by
  have hholds := holds_transcript (partners.withOutlet cut) shell.step (s, w₂)
  rw [hsaid₂] at hholds
  obtain ⟨hexit, hsilent⟩ := step_stops hholds htold hrest
  rw [hexit] at hholds
  have hstop : shell.step.run (partners.withOutlet cut) (s, w₂) =
      (.exit, (shell.step.run (partners.withOutlet cut) (s, w₂)).2) := Prod.ext hexit rfl
  have hrun := steps_run_of_exit hstop turns
  have hcut := steps_transcript_of_exit hstop turns
  rw [hsaid₂] at hcut
  have hwhole : ∃ later, (shell.steps (turns + 1)).transcript (partners.withOutlet full) (s, w₁) =
      told ++ .write text (.ok ()) :: later := by
    rw [steps_succ_transcript, hsaid₁, List.append_assoc]
    exact ⟨_, rfl⟩
  have hmoves : ∀ x ∈ shell.step.transcript (partners.withOutlet cut) (s, w₂),
      x.moves = false := by
    have hmem : .write text (.error e) ∈ told ++ .write text (.error e) :: rest := by simp
    rw [hsaid₂]
    exact (Stepping.of_holds hholds).moves_eq_false hmem
  constructor
  · exact Nat.succ_pos turns
  · exact hwithin
  · rw [Nat.zero_add, steps_one_run_snd, hfull.taken_run _ h₁, hsaid₁]
    refine Nat.lt_of_lt_of_le hexceeds ?_
    simp only [upTo, offered_append, offered_cons, Exchange.bytes, List.length_append]
    omega
  · rw [hrun]
  · obtain ⟨later, hwhole⟩ := hwhole
    exact ⟨told, text, e, later, rest, hwhole, hcut, hholds, hsilent, hexceeds⟩
  · intro δ directory hdirectory
    rw [hrun]
    exact (hdirectory.withOutlet cut).run_eq shell.step (s, w₂) hmoves

/-- The first step goes alike over both outputs, and the run stops later. -/
theorem StopsAfter.succ {steps : Nat} {s' : σ} {w₁' : ω₁} {w₂' : ω₂}
    (hfull : full.Takes none taken₁ Ready₁) (h₁ : Ready₁ w₁)
    (hsaid : shell.step.transcript (partners.withOutlet full) (s, w₁) =
      shell.step.transcript (partners.withOutlet cut) (s, w₂))
    (hrun₁ : shell.step.run (partners.withOutlet full) (s, w₁) = (.continue, s', w₁'))
    (hrun₂ : shell.step.run (partners.withOutlet cut) (s, w₂) = (.continue, s', w₂'))
    (h : StopsAfter partners full cut taken₁ limit shell turns s' w₁' w₂' steps) :
    StopsAfter partners full cut taken₁ limit shell (turns + 1) s w₁ w₂ (steps + 1) := by
  have hsteps₁ := steps_run_of_continue hrun₁
  have hsteps₂ := steps_run_of_continue hrun₂
  have htrace₁ := steps_transcript_of_continue hrun₁
  have htrace₂ := steps_transcript_of_continue hrun₂
  rw [← hsaid] at htrace₂
  have htaken : taken₁ w₁' =
      taken₁ w₁ ++ offered (shell.step.transcript (partners.withOutlet full) (s, w₁)) := by
    have hstep : taken₁ (shell.step.run (partners.withOutlet full) (s, w₁)).2.2 =
        taken₁ w₁ ++ offered (shell.step.transcript (partners.withOutlet full) (s, w₁)) :=
      hfull.taken_run shell.step h₁
    rwa [hrun₁] at hstep
  constructor
  · exact Nat.succ_lt_succ h.lt
  · rw [hsteps₁]
    exact h.within
  · rw [hsteps₁]
    exact h.exceeds
  · rw [hsteps₂]
    exact h.stops
  · obtain ⟨told, text, e, later, rest, hwhole, hcut, hholds, hsilent, hexceeds⟩ := h.said
    refine ⟨told, text, e, later, rest, ?_, ?_, hholds, hsilent, ?_⟩
    · rw [htrace₁, htrace₁, hwhole, List.append_assoc]
    · rw [htrace₂, htrace₁, hcut, List.append_assoc]
    · rw [htaken] at hexceeds
      rw [htrace₁]
      simpa only [offered_append, List.append_assoc] using hexceeds
  · intro δ directory hdirectory
    rw [hsteps₁, hsteps₂]
    exact h.directory directory hdirectory

/-- Over the second output a run goes as it does over the first, or it stops at the limit. -/
theorem steps_compared (hfull : full.Takes none taken₁ Ready₁)
    (hcut : cut.Takes (some limit) taken₂ Ready₂) (h₁ : Ready₁ w₁) (h₂ : Ready₂ w₂)
    (htaken : taken₁ w₁ = taken₂ w₂) (shell : Shell) (turns : Nat) (s : σ) :
    ((shell.steps turns).transcript (partners.withOutlet full) (s, w₁) =
        (shell.steps turns).transcript (partners.withOutlet cut) (s, w₂) ∧
      (taken₁ ((shell.steps turns).run (partners.withOutlet full) (s, w₁)).2.2).length ≤ limit) ∨
    ∃ steps, StopsAfter partners full cut taken₁ limit shell turns s w₁ w₂ steps := by
  have hbefore : (taken₁ w₁).length ≤ limit := htaken ▸ hcut.within w₂ h₂ limit rfl
  induction turns generalizing s w₁ w₂ with
  | zero => exact .inl ⟨rfl, hbefore⟩
  | succ turns ih =>
    have hcompared : Compared limit (taken₁ w₁)
        (shell.step.transcript (partners.withOutlet full) (s, w₁))
        (shell.step.transcript (partners.withOutlet cut) (s, w₂)) :=
      compared hfull hcut shell.step s h₁ h₂ htaken
    generalize hsaid₁ : shell.step.transcript (partners.withOutlet full) (s, w₁) = said₁,
      hsaid₂ : shell.step.transcript (partners.withOutlet cut) (s, w₂) = said₂ at hcompared
    cases hcompared with
    | parted htold hwithin hexceeds hrest =>
      exact .inr ⟨0, .of_parted hfull h₁ hbefore hexceeds htold hrest hsaid₁ hsaid₂⟩
    | same hwithin =>
      have hsaid := hsaid₁.trans hsaid₂.symm
      rw [← hsaid₁] at hwithin
      obtain ⟨flow, s', w₁', w₂', hrun₁, hrun₂, hready₁, hready₂, hend⟩ :=
        exists_run_of_within hfull hcut h₁ h₂ htaken hsaid hwithin
      have hafter : (taken₁ w₁').length ≤ limit := hend ▸ hcut.within w₂' hready₂ limit rfl
      cases flow with
      | exit =>
        refine .inl ⟨?_, ?_⟩
        · rw [steps_transcript_of_exit hrun₁, steps_transcript_of_exit hrun₂, hsaid]
        · rw [steps_run_of_exit hrun₁]
          exact hafter
      | «continue» =>
        rcases ih hready₁ hready₂ hend s' hafter with ⟨hrest, hlimit⟩ | ⟨steps, hstops⟩
        · refine .inl ⟨?_, ?_⟩
          · rw [steps_transcript_of_continue hrun₁, steps_transcript_of_continue hrun₂, hsaid,
              hrest]
          · rw [steps_run_of_continue hrun₁]
            exact hlimit
        · exact .inr ⟨steps + 1, hstops.succ hfull h₁ hsaid hrun₁ hrun₂⟩

/-- Where the two runs part, the first output has taken more than the limit, and the second one the
same up to the limit. -/
theorem StopsAfter.taken_eq {steps : Nat}
    (h : StopsAfter partners full cut taken₁ limit shell turns s w₁ w₂ steps) :
    limit < (taken₁ w₁ ++
        offered ((shell.steps turns).transcript (partners.withOutlet full) (s, w₁))).length ∧
      List.take limit (taken₁ w₁ ++
          offered ((shell.steps turns).transcript (partners.withOutlet cut) (s, w₂))) =
        List.take limit (taken₁ w₁ ++
          offered ((shell.steps turns).transcript (partners.withOutlet full) (s, w₁))) := by
  obtain ⟨told, text, e, later, rest, hwhole, hpart, -, -, hexceeds⟩ := h.said
  have hsplit : ∀ (x : Exchange) (more : List Exchange), x.bytes = utf8 text →
      taken₁ w₁ ++ offered ((shell.steps steps).transcript (partners.withOutlet full) (s, w₁) ++
        (told ++ x :: more)) =
      taken₁ w₁ ++ offered ((shell.steps steps).transcript (partners.withOutlet full) (s, w₁) ++
        told) ++ utf8 text ++ offered more := by
    intro x more hx
    simp only [offered_append, offered_cons, hx, List.append_assoc]
  rw [hwhole, hpart, hsplit _ later rfl, hsplit _ rest rfl]
  refine ⟨?_, ?_⟩
  · rw [List.length_append]
    exact Nat.lt_add_right _ hexceeds
  · rw [List.take_append_of_le_length (Nat.le_of_lt hexceeds),
      List.take_append_of_le_length (Nat.le_of_lt hexceeds)]

/-- What the second run asks for, the first one has asked for too. -/
theorem StopsAfter.asked {steps : Nat}
    (h : StopsAfter partners full cut taken₁ limit shell turns s w₁ w₂ steps) :
    launches ((shell.steps turns).transcript (partners.withOutlet cut) (s, w₂)) <+:
        launches ((shell.steps turns).transcript (partners.withOutlet full) (s, w₁)) ∧
      reads ((shell.steps turns).transcript (partners.withOutlet cut) (s, w₂)) <+:
        reads ((shell.steps turns).transcript (partners.withOutlet full) (s, w₁)) := by
  obtain ⟨told, text, e, later, rest, hwhole, hpart, -, hsilent, -⟩ := h.said
  have hrest : Silent (.write text (.error e) :: rest) := silent_cons.mpr ⟨rfl, hsilent⟩
  rw [hwhole, hpart]
  simp only [launches_append, reads_append, hrest.launches_eq_nil, hrest.reads_eq_nil,
    List.append_nil, ← List.append_assoc]
  exact ⟨List.prefix_append _ _, List.prefix_append _ _⟩

/-- Two runs with the same partners, over an output that takes everything and over one that takes
`limit` bytes. What the second output takes is the beginning of what the first one takes, and what
the second run reads and launches is the beginning of what the first one does. Within the limit they
are the same run; beyond it, the second one stops in the step in which the limit is exceeded. -/
theorem steps_truncated (hfull : full.Takes none taken₁ Ready₁)
    (hcut : cut.Takes (some limit) taken₂ Ready₂) (partners : Surroundings σ) (shell : Shell)
    (turns : Nat) (s : σ) {w₁ : ω₁} {w₂ : ω₂} (h₁ : Ready₁ w₁) (h₂ : Ready₂ w₂)
    (htaken : taken₁ w₁ = taken₂ w₂) :
    let whole := (shell.steps turns).run (partners.withOutlet full) (s, w₁)
    let part := (shell.steps turns).run (partners.withOutlet cut) (s, w₂)
    let wholeSaid := (shell.steps turns).transcript (partners.withOutlet full) (s, w₁)
    let partSaid := (shell.steps turns).transcript (partners.withOutlet cut) (s, w₂)
    taken₂ part.2.2 = (taken₁ whole.2.2).take limit ∧
      launches partSaid <+: launches wholeSaid ∧ reads partSaid <+: reads wholeSaid ∧
      ((taken₁ whole.2.2).length ≤ limit →
        partSaid = wholeSaid ∧ part.1 = whole.1 ∧ part.2.1 = whole.2.1) ∧
      (limit < (taken₁ whole.2.2).length →
        ∃ steps, StopsAfter partners full cut taken₁ limit shell turns s w₁ w₂ steps) := by
  intro whole part wholeSaid partSaid
  have hwhole : taken₁ whole.2.2 = taken₁ w₁ ++ offered wholeSaid :=
    hfull.taken_run (shell.steps turns) h₁
  have hpart : taken₂ part.2.2 = (taken₁ w₁ ++ offered partSaid).take limit := by
    rw [htaken]
    exact hcut.taken_run (shell.steps turns) h₂
  rcases steps_compared hfull hcut h₁ h₂ htaken shell turns s with ⟨hsaid, hlimit⟩ | ⟨steps, hstops⟩
  · have hsame : partSaid = wholeSaid := hsaid.symm
    obtain ⟨flow, s', w₁', w₂', hrun₁, hrun₂⟩ := exists_run_eq hsaid
    have hends : part.1 = whole.1 ∧ part.2.1 = whole.2.1 :=
      ⟨(congrArg Prod.fst hrun₂).trans (congrArg Prod.fst hrun₁).symm,
        (congrArg (·.2.1) hrun₂).trans (congrArg (·.2.1) hrun₁).symm⟩
    rw [hpart, hwhole, hsame]
    refine ⟨rfl, List.prefix_refl _, List.prefix_refl _, fun _ => ⟨rfl, hends⟩, fun hexceeds => ?_⟩
    rw [← hwhole] at hexceeds
    exact absurd hlimit (Nat.not_le_of_lt hexceeds)
  · obtain ⟨hexceeds, htake⟩ := hstops.taken_eq
    obtain ⟨hlaunches, hreads⟩ := hstops.asked
    rw [hpart, hwhole]
    exact ⟨htake, hlaunches, hreads, fun hwithin => absurd hwithin (Nat.not_le_of_lt hexceeds),
      fun _ => ⟨steps, hstops⟩⟩

open Rehearsal in
/-- The limit is exceeded in a greeting. The refusal of its line is not taken either, and the
program behind it is not launched. -/
theorem steps_truncated_greeting :
    let shell : Shell := { user := "ada" }
    let s : Stage := { queue := [.ok (.line "ls"), .ok (.line "hello"), .ok (.line "wc")] }
    let whole := (shell.steps 4).run (Stage.partners.withOutlet Sink.outlet) (s, {})
    let part := (shell.steps 4).run (Stage.partners.withOutlet Sink.outlet)
      (s, { budget := some 24 })
    whole.2.2.accepted.length = 72 ∧ part.2.2.accepted = whole.2.2.accepted.take 24 ∧
      part.2.1.launches = [.single ⟨["ls"]⟩] ∧
      whole.2.1.launches = [.single ⟨["ls"]⟩, .single ⟨["wc"]⟩] ∧
      ∃ steps, StopsAfter Stage.partners Sink.outlet Sink.outlet Sink.accepted 24 shell 4 s {}
        { budget := some 24 } steps := by
  intro shell s whole part
  have hlength : whole.2.2.accepted.length = 72 := by decide +kernel
  have hexceeds : 24 < whole.2.2.accepted.length := by
    rw [hlength]
    decide
  have hfull : Sink.Unlimited {} := ⟨rfl, rfl⟩
  have hcut : Sink.Limited 24 { budget := some 24 } := ⟨Nat.zero_le 24, rfl, rfl, rfl⟩
  obtain ⟨htaken, -, -, -, hstops⟩ :=
    steps_truncated Sink.takes_everything (Sink.takes 24) Stage.partners shell 4 s hfull hcut rfl
  refine ⟨hlength, ?_, by decide +kernel, by decide +kernel, hstops hexceeds⟩
  -- At any other transparency the two sides are evaluated before they are compared.
  with_reducible exact htaken

end

end Shell
end PipeShell
