import PipeShell.Proofs.Rehearsal
import PipeShell.Proofs.Shell.Reading
import PipeShell.Proofs.Shell.Stepping

/-! # The directory of a run

Which directories a run asks for is read off the items that it has read: the operand of each line
that calls `cd` and keeps the limits, and nothing else (`Shell.operand?`). It is asked for before
the directory is shown again, before the next item is read and before anything is launched; so there
the directory is the fold of the changes that the lines have asked for so far (`steps_directory`).
-/

namespace PipeShell
open Line Interaction Output

/-- Whether the directory matters: it is shown, it is in force at the prompt, or a program is
started in it. -/
def Exchange.usesDirectory : Exchange → Bool
  | currentDir _ | readLine .. | launch .. => true
  | _ => false

theorem targets_eq_nil {trace : List Exchange} (h : ∀ x ∈ trace, x.target? = none) :
    targets trace = [] := List.filterMap_eq_nil_iff.mpr h

/-! ## Operands -/

/-- The directory that a line names after `cd`. -/
def Reading.operand? (r : Reading) : Option String :=
  if r.first.head? = some "cd" then r.first[1]? else none

namespace Shell

/-- The directory that an item asks for. -/
def operand? (shell : Shell) : Item → Option String
  | .ok (.line line) =>
    if line.length ≤ shell.limits.maxLine ∧ ¬ (Reading.ofLine line).Exceeds shell.limits.maxArgs
    then (Reading.ofLine line).operand? else none
  | _ => none

end Shell

variable {shell : Shell} {line : String} {plan : Plan} {trace : List Exchange} {flow : Flow}
  {item : Item}

theorem Reading.operand?_of_builtin {r : Reading} {b : Builtin} (h : r.builtin? = some b) :
    r.operand? = if b = .cd then r.first[1]? else none := by
  rcases r.cases with ⟨-, -, hnone⟩ | ⟨b', hhead, hb, -⟩ | ⟨hnil, -⟩
  · cases h.symm.trans hnone
  · obtain rfl := Option.some.inj (h.symm.trans hb)
    rw [operand?, hhead]
    cases b <;> rfl
  · simp [builtin?, hnil] at h

theorem Reading.operand?_of_none {r : Reading} (h : r.builtin? = none) : r.operand? = none := by
  refine if_neg fun hcd => ?_
  rw [builtin?, hcd] at h
  cases h

/-- A blank line does not call `cd`. -/
theorem Reading.operand?_of_blank (hblank : Text.allBlank line = true) :
    (Reading.ofLine line).operand? = none := by
  refine if_neg fun hcd => ?_
  have hmem : "cd" ∈ tokens (beforeBar line) := List.mem_of_mem_head? hcd
  have hc : 'c' ∈ line.toList := List.mem_of_mem_take ((mem_tokens hmem).2 'c' (.head _)).1
  exact absurd (Text.allBlank_iff.mp hblank 'c' hc) (by decide)

/-! ## What asks for a directory -/

theorem Writing.targets_eq {texts : List String} {result : Except IoError Unit}
    (h : Writing texts trace result) : targets trace = [] := by
  induction h with
  | done => rfl
  | refused => rfl
  | accepted _ ih => exact ih

/-- Only `cd` asks for a directory, and for its operand. -/
theorem Builtin.Performing.targets_eq {user : String} {argv : Argv} {b : Builtin}
    {result : Except IoError Unit} (h : b.Performing user argv trace result) :
    targets trace = (if b = .cd then argv.arg 1 else none).toList := by
  cases h with
  | moved htarget =>
    rw [if_pos rfl, htarget]
    rfl
  | unmoved htarget hwriting =>
    rw [if_pos rfl, htarget]
    exact congrArg (List.cons _) hwriting.targets_eq
  | told hnone hwriting =>
    rw [hwriting.targets_eq]
    split
    · next hb => rw [hnone hb]; rfl
    · rfl

namespace Shell

theorem Planned.targets_eq {outcome : Except PlanError Plan}
    (h : shell.Planned line trace outcome) :
    targets trace = (shell.operand? (.ok (.line line))).toList := by
  cases h with
  | tooLong hlong =>
    rw [operand?, if_neg fun hwithin => absurd hwithin.1 (Nat.not_le.mpr hlong)]
    rfl
  | tooMany _ hmany =>
    rw [operand?, if_neg fun hwithin => hwithin.2 hmany]
    rfl
  | silent hshort hfew hnone =>
    rw [operand?, if_pos ⟨hshort, hfew⟩, Reading.operand?_of_none hnone]
    rfl
  | builtin hshort hfew hb hperforms =>
    rw [operand?, if_pos ⟨hshort, hfew⟩, Reading.operand?_of_builtin hb]
    exact hperforms.targets_eq

theorem Planning.usesDirectory_eq_false {outcome : Except PlanError Plan}
    (h : shell.Planning line trace outcome) : ∀ x ∈ trace, x.usesDirectory = false := by
  refine h.forall_mem fun x hx => ?_
  cases x <;> first | rfl | cases hx

/-- Acting on a line asks for its operand, and has done so before the directory matters. -/
theorem Acting.targets_eq {result : Except IoError Flow} (h : Acting shell line trace result) :
    targets trace = (shell.operand? (.ok (.line line))).toList ∧
      AtEach (fun before x => x.usesDirectory = true → reads before = [] ∧
        targets before = (shell.operand? (.ok (.line line))).toList) trace := by
  cases h with
  | blank hblank =>
    refine ⟨?_, .nil⟩
    simp [operand?, Reading.operand?_of_blank hblank, targets]
  | @refused told e answer _ hplanning =>
    have hunused : ∀ x ∈ told ++ [lineRefused e, .write (refusal e) answer],
        x.usesDirectory = false :=
      List.forall_mem_append.mpr ⟨hplanning.usesDirectory_eq_false,
        List.forall_mem_cons.mpr ⟨rfl, List.forall_mem_singleton.mpr rfl⟩⟩
    refine ⟨?_, .of_forall_mem fun x hx before huses => ?_⟩
    · rw [targets_append, hplanning.planned.targets_eq]
      exact List.append_nil _
    · cases (hunused x hx).symm.trans huses
  | @planned told plan rest result _ hplanning hcarried =>
    have htold := hplanning.planned.targets_eq
    have hrest : ∀ before x later, rest = before ++ x :: later →
        reads before = [] ∧ targets before = [] := by
      rintro before x later rfl
      have hreads := hcarried.asked.1
      have htargets := targets_eq_nil hcarried.stays
      rw [reads_append, List.append_eq_nil_iff] at hreads
      rw [targets_append, List.append_eq_nil_iff] at htargets
      exact ⟨hreads.1, htargets.1⟩
    refine ⟨?_, .append (.of_forall_mem fun x hx before huses => ?_) ?_⟩
    · rw [targets_append, htold, targets_eq_nil hcarried.stays, List.append_nil]
    · cases (hplanning.usesDirectory_eq_false x hx).symm.trans huses
    · intro before x later heq _
      obtain ⟨hreads, htargets⟩ := hrest before x later heq
      rw [reads_append, targets_append, hplanning.silent.reads_eq_nil, hreads, htold, htargets]
      exact ⟨rfl, List.append_nil _⟩

/-! ## Steps -/

/-- All that the items read so far ask for has been asked for, and nothing else. -/
def CaughtUp (shell : Shell) (said : List Exchange) : Prop :=
  targets said = (reads said).filterMap shell.operand?

theorem CaughtUp.append {said later : List Exchange} (h₁ : shell.CaughtUp said)
    (h₂ : shell.CaughtUp later) : shell.CaughtUp (said ++ later) := by
  rw [CaughtUp, targets_append, reads_append, List.filterMap_append, h₁, h₂]

theorem CaughtUp.of_still {said : List Exchange} (hreads : reads said = [])
    (htargets : targets said = []) : shell.CaughtUp said := by
  rw [CaughtUp, hreads, htargets]
  rfl

theorem operands_singleton (shell : Shell) (item : Item) :
    [item].filterMap shell.operand? = (shell.operand? item).toList := by
  rw [List.filterMap_cons]
  cases shell.operand? item <;> rfl

/-- The item at the prompt has been dealt with. -/
theorem CaughtUp.of_item {said : List Exchange} (hreads : reads said = [])
    (htargets : targets said = (shell.operand? item).toList) :
    shell.CaughtUp (.readLine prompt item :: said) := by
  have hitem : reads (.readLine prompt item :: said) = [item] := congrArg (List.cons item) hreads
  rw [CaughtUp, hitem, operands_singleton]
  exact htargets

theorem Responding.targets_eq {result : Except IoError Flow}
    (h : Responding shell item trace result) :
    targets trace = (shell.operand? item).toList ∧
      AtEach (fun before x => x.usesDirectory = true → reads before = [] ∧
        targets before = (shell.operand? item).toList) trace := by
  cases h with
  | line hacting => exact hacting.targets_eq
  | interrupted | endOfInput | failed =>
    refine ⟨rfl, .of_forall_mem (List.forall_mem_singleton.mpr fun before huses => ?_)⟩
    cases huses

theorem Trying.caughtUp {result : Except IoError Flow} (h : Trying shell trace result) :
    shell.CaughtUp trace ∧
      AtEach (fun before x => x.usesDirectory = true → shell.CaughtUp before) trace := by
  have hshown : ∀ {shown result}, Showing shown result → shell.CaughtUp shown ∧
      AtEach (fun before _ => shell.CaughtUp before) shown := by
    intro shown result hshowing
    have hreads := hshowing.silent.reads_eq_nil
    have htargets := targets_eq_nil hshowing.stays
    refine ⟨.of_still hreads htargets, ?_⟩
    rintro before x rest rfl
    rw [reads_append, List.append_eq_nil_iff] at hreads
    rw [targets_append, List.append_eq_nil_iff] at htargets
    exact .of_still hreads.1 htargets.1
  cases h with
  | unshown hshowing =>
    obtain ⟨hcaught, heach⟩ := hshown hshowing
    exact ⟨hcaught, heach.imp fun _ _ h _ => h⟩
  | @read shown item rest _ hshowing hresponding =>
    obtain ⟨hcaught, heach⟩ := hshown hshowing
    obtain ⟨htargets, hlater⟩ := hresponding.targets_eq
    refine ⟨hcaught.append (.of_item hresponding.asked.1 htargets),
      .append (heach.imp fun _ _ h _ => h) (.cons (fun _ => ?_) (hlater.imp ?_))⟩
    · rw [List.append_nil]
      exact hcaught
    · intro before x h huses
      obtain ⟨hreads, htold⟩ := h huses
      exact hcaught.append (.of_item hreads htold)

theorem Stepping.caughtUp (h : Stepping shell trace flow) :
    shell.CaughtUp trace ∧
      AtEach (fun before x => x.usesDirectory = true → shell.CaughtUp before) trace := by
  cases h with
  | went htrying => exact htrying.caughtUp
  | stopped htrying =>
    obtain ⟨hcaught, heach⟩ := htrying.caughtUp
    refine ⟨hcaught.append (.of_still rfl rfl), heach.append ?_⟩
    exact .of_forall_mem (List.forall_mem_singleton.mpr nofun)

/-- A step asks for the directory that its item names. -/
theorem Stepping.targets_eq (h : Stepping shell trace flow) (hreads : reads trace = [item]) :
    targets trace = (shell.operand? item).toList := by
  have hcaught := h.caughtUp.1
  rwa [CaughtUp, hreads, operands_singleton] at hcaught

/-! ## Runs -/

theorem InSteps.caughtUp {parts : List (List Exchange)} (h : InSteps shell parts flow) :
    shell.CaughtUp parts.flatten ∧
      AtEach (fun before x => x.usesDirectory = true → shell.CaughtUp before) parts.flatten := by
  induction h with
  | paused => exact ⟨rfl, .nil⟩
  | ended hstep =>
    rw [List.flatten_singleton]
    exact (Stepping.of_holds hstep).caughtUp
  | went hstep _ ih =>
    obtain ⟨hcaught, heach⟩ := (Stepping.of_holds hstep).caughtUp
    rw [List.flatten_cons]
    exact ⟨hcaught.append ih.1,
      heach.append (ih.2.imp fun before x h huses => hcaught.append (h huses))⟩

section
variable {σ ω δ : Type} (partners : Surroundings σ) (world : σ → ω) (directory : σ → δ)
  (change : ω → String → δ → Except IoError Unit × δ)

/-- Makes a change of directory. One that fails is passed over. -/
def enter (d : δ) (c : ω × String) : δ :=
  match change c.1 c.2 d with
  | (.ok (), entered) => entered
  | (.error _, _) => d

/-- What has been asked for are the operands of the lines that have been read, and the directory is
what becomes of the first one when they are entered in this order. -/
structure Followed (shell : Shell) (s : σ) (said : List Exchange) : Prop where
  asked : targets said = (reads said).filterMap shell.operand?
  operands : (partners.changes world said s).map Prod.snd = (reads said).filterMap shell.operand?
  directory : directory (partners.after said s) =
    (partners.changes world said s).foldl (enter change) (directory s)

variable {partners world directory change}

theorem CaughtUp.followed (hdirectory : HoldsDirectory partners world directory change)
    (hfails : ∀ w target d e, (change w target d).1 = .error e → (change w target d).2 = d)
    {said : List Exchange} (h : shell.CaughtUp said) (s : σ) :
    Followed partners world directory change shell s said where
  asked := h
  operands := (Surroundings.targets_changes world said s).trans h
  directory := by
    have henter : (fun d c => (change c.1 c.2 d).2) = enter change := by
      funext d c
      have hstays := hfails c.1 c.2 d
      unfold enter
      split
      · next hchange => rw [hchange]
      · next e d' hchange => exact hstays e (by rw [hchange])
    rw [hdirectory.after, henter]

/-- Wherever the directory matters in a run, and at its end, it is the fold of the changes that the
lines read so far have asked for, over those that succeed. -/
theorem steps_directory (hdirectory : HoldsDirectory partners world directory change)
    (hfails : ∀ w target d e, (change w target d).1 = .error e → (change w target d).2 = d)
    (shell : Shell) (turns : Nat) (s : σ) :
    let said := (shell.steps turns).transcript partners s
    (∀ before x rest, said = before ++ x :: rest → x.usesDirectory = true →
      Followed partners world directory change shell s before) ∧
    Followed partners world directory change shell s said ∧
    ((shell.steps turns).run partners s).2 = partners.after said s := by
  intro said
  obtain ⟨parts, hparts, hsaid, -⟩ := holds_steps (holds_transcript partners (shell.steps turns) s)
  obtain ⟨hcaught, heach⟩ := hparts.caughtUp
  rw [← hsaid] at hcaught heach
  refine ⟨fun before x rest heq huses => ?_, hcaught.followed hdirectory hfails s,
    run_eq_after partners _ s⟩
  exact (heach before x rest heq huses).followed hdirectory hfails s

/-- A second stage and a further operand make no difference, a directory that does not exist is not
entered, and a line with too many tokens is not looked at. -/
theorem steps_directory_missing :
    let shell : Shell := { limits := { maxArgs := 3 } }
    let s : Rehearsal.Stage :=
      { directory := { current := "/home", existing := ["/tmp", "/srv"] },
        sink := { budget := some 40, recover := true },
        queue := [.ok (.line "cd /tmp x | wc"), .ok (.line "cd gone"), .ok (.line "cd"),
          .ok (.line "cd /srv x y"), .ok .interrupted, .ok (.line "ls | cd /srv")] }
    let said := (shell.steps 7).transcript Rehearsal.Stage.partners s
    Followed Rehearsal.Stage.partners (fun _ => ()) (·.directory)
        (fun _ => Rehearsal.Stage.tryChange) shell s said ∧
      (reads said).filterMap shell.operand? = ["/tmp", "gone"] ∧
      ((shell.steps 7).run Rehearsal.Stage.partners s).2.directory.current = "/tmp" := by
  intro shell s said
  have hfollowed := (steps_directory Rehearsal.Stage.holdsDirectory
    (fun _ _ _ _ => Rehearsal.Stage.tryChange_of_error) shell 7 s).2.1
  exact ⟨hfollowed, by decide +kernel, by decide +kernel⟩

end

end Shell
end PipeShell
