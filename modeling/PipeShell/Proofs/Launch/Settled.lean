import PipeShell.Proofs.Launch.Tables
import PipeShell.Proofs.Shell.Refusal
import PipeShell.Shell.Session

/-! # What a launch leaves behind

Nothing: when a launch is through, each end of its pipe has been closed once and nothing else has,
each child has been waited for until the wait was not interrupted and no one else has, and the table
is the one at the start (`Settled`). This is read off the ledger, which at the end is empty
(`Audit.settled`), and it adds up over the launches of a session (`launches_settled`). -/

namespace PipeShell.Launch

/-- Each child has been waited for, in order, until the wait was not interrupted. -/
inductive Reaped : List Nat → List (Nat × Except Errno UInt32) → Prop
  | nil : Reaped [] []
  | interrupted {pid pids waits} : Reaped (pid :: pids) waits →
    Reaped (pid :: pids) ((pid, .error .interrupted) :: waits)
  | settled {pid pids waits answer} : answer ≠ .error .interrupted → Reaped pids waits →
    Reaped (pid :: pids) ((pid, answer) :: waits)

theorem Reaped.append {pids₁ pids₂ : List Nat} {waits₁ waits₂ : List (Nat × Except Errno UInt32)}
    (h₁ : Reaped pids₁ waits₁) (h₂ : Reaped pids₂ waits₂) :
    Reaped (pids₁ ++ pids₂) (waits₁ ++ waits₂) := by
  induction h₁ with
  | nil => exact h₂
  | interrupted _ ih => exact .interrupted ih
  | settled hanswer _ ih => exact .settled hanswer ih

/-- All that was opened has been closed, and all that was started has been waited for. -/
structure Settled (calls : List Call) : Prop where
  /-- Each end of a pipe is closed exactly once, and no other descriptor. -/
  closed_eq : closed calls = made calls
  reaped : Reaped (forked calls) (waits calls)
  /-- No end is held while waiting, and the wait is for a child created before. -/
  waiting : ∀ before pid answer rest, calls = before ++ .wait pid answer :: rest →
    closed before = made before ∧ pid ∈ forked before
  table_eq : ∀ t t', Effects t calls t' → t' = t

namespace Audit

variable {output : Option Fd} {l l' : Ledger} {calls calls₁ calls₂ : List Call}

theorem append_inv (h : Audit output l (calls₁ ++ calls₂) l') :
    ∃ m, Audit output l calls₁ m ∧ Audit output m calls₂ l' := by
  induction calls₁ generalizing l with
  | nil => exact ⟨l, .nil, h⟩
  | cons c calls₁ ih =>
    obtain _ | ⟨hallows, h⟩ := h
    obtain ⟨m, h₁, h₂⟩ := ih h
    exact ⟨m, .cons hallows h₁, h₂⟩

/-- One call moves ends from those that are held to those that are closed. -/
theorem held_step {c : Call} (h : l.Allows output c) :
    l.held ++ c.made = c.closed ++ (l.after c).held := by
  cases c with
  | pipe answer => rcases answer with _ | ⟨_, _⟩ <;> simp [Call.made, Call.closed, Ledger.after]
  | fork plan answer => cases answer <;> simp [Call.made, Call.closed, Ledger.after]
  | close fd =>
    obtain ⟨rest, hheld⟩ := List.head?_eq_some_iff.mp h
    simp [Call.made, Call.closed, Ledger.after, hheld]
  | wait pid answer =>
    have hafter := Ledger.after_of_other (l := l) (c := .wait pid answer) rfl rfl
    simp [Call.made, Call.closed, hafter.2]
  | log record => simp [Call.made, Call.closed, Ledger.after]

theorem held_append (h : Audit output l calls l') :
    l.held ++ made calls = closed calls ++ l'.held := by
  induction h with
  | nil => simp
  | cons hallows _ ih =>
    rw [made_cons, closed_cons, ← List.append_assoc, held_step hallows, List.append_assoc, ih,
      List.append_assoc]

theorem reaped (h : Audit output l calls l') (hend : l'.owed = []) :
    Reaped (l.owed ++ forked calls) (waits calls) := by
  induction h with
  | nil => simpa [hend] using Reaped.nil
  | @cons l c calls l' hallows _ ih =>
    specialize ih hend
    cases c with
    | pipe answer => rcases answer with _ | ⟨_, _⟩ <;> exact ih
    | fork plan answer =>
      cases answer with
      | error e => exact ih
      | ok pid => simpa [Ledger.after, Call.forked, Call.waits] using ih
    | close fd => exact ih
    | wait pid answer =>
      obtain ⟨owed, howed⟩ := List.head?_eq_some_iff.mp hallows.2.2
      by_cases hanswer : answer = .error .interrupted
      · subst hanswer
        rw [Ledger.after_interrupted] at ih
        rw [howed] at ih ⊢
        exact .interrupted ih
      · rw [Ledger.after_wait hanswer, howed] at ih
        rw [howed]
        exact .settled hanswer ih
    | log record => exact ih

theorem owed_step (l : Ledger) (c : Call) : (l.after c).owed ⊆ l.owed ++ c.forked := by
  cases c with
  | pipe answer => rcases answer with _ | ⟨_, _⟩ <;> simp [Ledger.after]
  | fork plan answer => cases answer <;> simp [Ledger.after, Call.forked]
  | close fd => simp [Ledger.after]
  | wait pid answer =>
    by_cases hanswer : answer = .error .interrupted
    · subst hanswer
      simp [Ledger.after_interrupted]
    · rw [Ledger.after_wait hanswer]
      exact List.Subset.trans (List.tail_sublist _).subset (List.subset_append_left _ _)
  | log record => simp [Ledger.after]

/-- Those who are owed a wait were owed one before or have been created. -/
theorem owed_subset (h : Audit output l calls l') : l'.owed ⊆ l.owed ++ forked calls := by
  induction h with
  | nil => simp
  | @cons l c calls l' _ _ ih =>
    rw [forked_cons, ← List.append_assoc]
    exact List.Subset.trans ih (List.append_subset.mpr
      ⟨List.Subset.trans (owed_step l c) (List.subset_append_left _ _),
        List.subset_append_right _ _⟩)

theorem effects {start t : Table} {n : Nat} (h : Audit output l calls l') (hsound : l.Sound start)
    (heffects : Effects (l.table n start) calls t) : ∃ k, t = l'.table k start := by
  induction h generalizing n with
  | nil =>
    obtain _ | _ := heffects
    exact ⟨n, rfl⟩
  | cons hallows _ ih =>
    obtain _ | ⟨m, heffect, heffects⟩ := heffects
    obtain ⟨hsound, k, rfl, -⟩ := hsound.effect hallows heffect
    exact ih hsound heffects

/-- Calls in order that leave nothing open leave nothing behind. -/
theorem settled {stages : Nat} (h : Audit output { stages } calls l) (hheld : l.held = [])
    (howed : l.owed = []) :
    Settled calls where
  closed_eq := by simpa [hheld] using h.held_append.symm
  reaped := h.reaped howed
  waiting before pid answer rest hcalls := by
    rw [hcalls] at h
    obtain ⟨m, hbefore, _ | ⟨hwait, -⟩⟩ := h.append_inv
    obtain ⟨_, hhead⟩ := List.head?_eq_some_iff.mp hwait.2.2
    refine ⟨by simpa [hwait.1] using hbefore.held_append.symm, ?_⟩
    exact hbefore.owed_subset (hhead ▸ .head _)
  table_eq t t' heffects := by
    have hsound : Ledger.Sound t { stages } := rfl
    obtain ⟨k, rfl⟩ := h.effects (n := 0) hsound heffects
    exact Ledger.table_of_held_eq_nil hheld

end Audit

namespace Settled

variable {calls₁ calls₂ : List Call}

theorem nil : Settled [] where
  closed_eq := rfl
  reaped := .nil
  waiting before _ _ _ h := by cases before <;> cases h
  table_eq _ _ h := by cases h; rfl

theorem append (h₁ : Settled calls₁) (h₂ : Settled calls₂) : Settled (calls₁ ++ calls₂) where
  closed_eq := by simp [h₁.closed_eq, h₂.closed_eq]
  reaped := by simpa using h₁.reaped.append h₂.reaped
  waiting before pid answer rest h := by
    rcases List.append_eq_append_iff.mp h with ⟨before₂, rfl, hcalls⟩ | ⟨rest₁, hcalls, hrest⟩
    · obtain ⟨hclosed, hforked⟩ := h₂.waiting _ _ _ _ hcalls
      simp [hclosed, hforked, h₁.closed_eq]
    · cases rest₁ with
      | nil =>
        -- The wait is the first call of the second list, which no child precedes.
        have hforked := (h₂.waiting [] _ _ _ hrest.symm).2
        cases hforked
      | cons c rest₁ =>
        obtain ⟨rfl, -⟩ := List.cons.inj hrest
        exact h₁.waiting _ _ _ _ hcalls
  table_eq t t' h := by
    obtain ⟨u, heffects₁, heffects₂⟩ := h.append_inv
    rw [h₂.table_eq _ _ heffects₂, h₁.table_eq _ _ heffects₁]

end Settled

/-- A conversation whose launches are made by the launcher; the other partners answer anything. -/
inductive Drives {α : Type} (output : Option Fd) : Interaction α → List Call → Interaction α → Prop
  | refl {p} : Drives output p [] p
  | launch {command answer next q calls₁ calls₂} :
    (launch output command).Makes calls₁ (.done answer) → Drives output (next answer) calls₂ q →
    Drives output (.launch command next) (calls₁ ++ calls₂) q
  | other {p q r x calls} : Interaction.Turn p x q → x.isLaunch = false → Drives output q calls r →
    Drives output p calls r

theorem launch_settled {output : Option Fd} {command : Command} {calls : List Call}
    {result : Except LaunchError (List Child)}
    (h : (launch output command).Makes calls (.done result)) : Settled calls := by
  obtain ⟨l, haudit, hheld, howed, -⟩ := (launch_ensures output command).makes h
  exact haudit.settled hheld howed

namespace Drives

variable {α β : Type} {output : Option Fd} {p q r : Interaction α} {calls calls₁ calls₂ : List Call}

theorem trans (h₁ : Drives output p calls₁ q) (h₂ : Drives output q calls₂ r) :
    Drives output p (calls₁ ++ calls₂) r := by
  induction h₁ with
  | refl => exact h₂
  | launch hmakes _ ih =>
    rw [List.append_assoc]
    exact .launch hmakes (ih h₂)
  | other hturn hx _ ih => exact .other hturn hx (ih h₂)

theorem bind (h : Drives output p calls q) (f : α → Interaction β) :
    Drives output (p.bind f) calls (q.bind f) := by
  induction h with
  | refl => exact .refl
  | launch hmakes _ ih => exact .launch hmakes ih
  | other hturn hx _ ih => exact .other (hturn.bind f) hx ih

theorem settled (h : Drives output p calls q) : Settled calls := by
  induction h with
  | refl => exact .nil
  | launch hmakes _ ih => exact (launch_settled hmakes).append ih
  | other _ _ _ ih => exact ih

end Drives

/-- Each launch leaves nothing behind, and so a session over the launcher has left nothing behind
when the next line is asked for, or at any other point where no launch is under way. -/
theorem launches_settled (output : Option Fd) :
    (∀ command calls result, (launch output command).Makes calls (.done result) → Settled calls) ∧
    ∀ (shell : Shell) showsBanner turns calls p,
      Drives output (shell.session showsBanner turns) calls p → Settled calls :=
  ⟨fun _ _ _ => launch_settled, fun _ _ _ _ _ => Drives.settled⟩

/-! A pipeline whose second child cannot be created, and a session that has launched a line. -/

theorem makes_halfStarted : ∃ calls,
    (launch none (.piped ⟨["a"]⟩ ⟨["b"]⟩)).Makes calls (.done (.error (.syscall .tryAgain))) ∧
      forked calls = [7] ∧ ∃ t, Effects .standard calls t :=
  ⟨_, .step (.pipe (.ok (3, 4))) <| .step (.fork (.ok 7)) <| .step .log <|
      .step (.fork (.error .tryAgain)) <| .step .close <| .step .close <| .step .interrupted <|
      .step (.wait (.ok 0) nofun) <| .step .log .refl,
    rfl, _, .cons 0 (.pipe rfl rfl (by decide)) <| .cons 0 (.other rfl rfl) <|
      .cons 0 (.other rfl rfl) <| .cons 0 (.other rfl rfl) <| .cons 0 .close <| .cons 0 .close <|
      .cons 0 (.other rfl rfl) <| .cons 0 (.other rfl rfl) <| .cons 0 (.other rfl rfl) .nil⟩

theorem makes_single : ∃ calls, forked calls = [7] ∧ (launch none (.single ⟨["a"]⟩)).Makes calls
    (.done (.ok [⟨7, some (.exited 0)⟩])) :=
  ⟨_, rfl, .step (.fork (.ok 7)) <| .step .log <| .step (.wait (.ok 0) nofun) <| .step .log .refl⟩

/-- A line is launched, and the next one is asked for. -/
theorem drives_session : ∃ calls next, forked calls = [7] ∧
    Drives none (({} : Shell).session false 2) calls (.readLine Shell.prompt next) := by
  obtain ⟨calls, hforked, hmakes⟩ := makes_single
  have htokens : Shell.tokenize ({} : Shell).limits.maxArgs (.ofLine "a") =
      .ok (⟨["a"]⟩, none) := by cbv
  have hplan : (({} : Shell).plan "a").run = .log ⟨.interpreter, .debug, "piped: false"⟩
      (.done (.ok (.launch (.single ⟨["a"]⟩)))) := by
    simp only [Shell.plan, htokens]
    rfl
  have hline : Drives none (({} : Shell).executeLine "a").run calls (.done (.ok .continue)) := by
    rw [Shell.executeLine_run rfl, hplan, ← List.append_nil calls]
    exact .other .log rfl <| .other .log rfl <| .other (.flush (.ok ())) rfl <|
      .other (.interrupts 0) rfl <| .launch hmakes <| .other .log rfl <|
      .other (.interrupts 0) rfl .refl
  have hprompt : ∀ rest : Flow → Interaction Unit, ∃ next,
      Drives none ((({} : Shell).steps 1).bind rest) [] (.readLine Shell.prompt next) := fun rest =>
    ⟨_, .other (.currentDir (.ok "/")) rfl <| .other (.write (.ok ())) rfl <|
      .other (.flush (.ok ())) rfl .refl⟩
  obtain ⟨next, hprompt⟩ := hprompt _
  refine ⟨calls ++ [], next, by simpa using hforked, ?_⟩
  exact .other (.currentDir (.ok "/")) rfl <| .other (.write (.ok ())) rfl <|
    .other (.flush (.ok ())) rfl <| .other (.readLine (.ok (.line "a"))) rfl <|
    (((hline.bind _).bind _).bind _).trans hprompt

theorem launches_settled_halfStarted :
    (∃ calls, (launch none (.piped ⟨["a"]⟩ ⟨["b"]⟩)).Makes calls
        (.done (.error (.syscall .tryAgain))) ∧
      forked calls = [7] ∧ Effects .standard calls .standard ∧ Settled calls) ∧
    ∃ calls next, Drives none (({} : Shell).session false 2) calls
        (.readLine Shell.prompt next) ∧ forked calls = [7] ∧ Settled calls := by
  obtain ⟨calls₁, hmakes, hforked₁, t, heffects⟩ := makes_halfStarted
  obtain ⟨calls₂, next, hforked₂, hdrives⟩ := drives_session
  have hsettled₁ := (launches_settled none).1 _ _ _ hmakes
  have hsettled₂ := (launches_settled none).2 _ _ _ _ _ hdrives
  obtain rfl := hsettled₁.table_eq _ _ heffects
  exact ⟨⟨calls₁, hmakes, hforked₁, heffects, hsettled₁⟩,
    calls₂, next, hdrives, hforked₂, hsettled₂⟩

end PipeShell.Launch
