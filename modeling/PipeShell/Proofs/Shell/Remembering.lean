import PipeShell.Proofs.Editor.Calls
import PipeShell.Proofs.Shell.Refusal
import PipeShell.Proofs.Shell.Stepping
import PipeShell.Shell.Session

/-! # What the history remembers

The editor is asked for items, one in each step, and to save its history once, when the steps are
over, whatever ended them (`Shell.holds_session`). What is said right after a line was read is the
line being acted on (`Shell.ActsNext`), so a line is in the history before that. A line of which
nothing is said is a blank one (`Shell.allBlank_iff`). Together: the history is given the lines that
the shell acts on, each once and in their order (`Shell.session_remembered`). -/

namespace PipeShell
open Interaction Output

/-- The editor is asked for nothing. -/
def Unedited (trace : List Exchange) : Prop := ∀ x ∈ trace, x.edits = false

section
variable {trace trace₁ trace₂ : List Exchange} {x : Exchange}

@[simp] theorem unedited_nil : Unedited [] := List.forall_mem_nil _

@[simp] theorem unedited_cons : Unedited (x :: trace) ↔ x.edits = false ∧ Unedited trace :=
  List.forall_mem_cons

@[simp] theorem unedited_append :
    Unedited (trace₁ ++ trace₂) ↔ Unedited trace₁ ∧ Unedited trace₂ := List.forall_mem_append

end

namespace Shell

variable {shell : Shell} {line : String} {plan : Plan} {command : Command}
  {trace trace₁ trace₂ : List Exchange} {flow : Flow}

/-! ## One line -/

/-- The discipline of what asks the editor for nothing. -/
abbrev unedited : Discipline := .only (·.edits = false)

theorem unedited_admits {x : Exchange} (h : x.edits = false) : unedited.Admits x :=
  Discipline.only_admits.mpr h

theorem isReport_unedited (x : Exchange) (h : x.isReport = true) : unedited.Admits x := by
  cases x <;> first | exact unedited_admits rfl | cases h

theorem refuse_unedited (e : PlanError) : (refuse e).Obeys unedited :=
  .bind (.note (unedited_admits rfl)) fun _ =>
    .bind (.writeLine fun _ => unedited_admits rfl) fun _ => .pure _

theorem carryOut_unedited (plan : Plan) : (carryOut plan).Obeys unedited := by
  refine .bind (.note (unedited_admits rfl)) fun _ =>
    .bind (.flush fun _ => unedited_admits rfl) fun _ => ?_
  cases plan with
  | nothing | exit => exact .pure _
  | launch command =>
    exact .bind (launch_obeys (fun _ => unedited_admits rfl) (fun _ => unedited_admits rfl)
      isReport_unedited) fun _ => .pure _

/-- Acting on a line does not ask the editor for anything. -/
theorem executeLine_unedited {result : Except IoError Flow}
    (h : (shell.executeLine line).run.Holds trace result) : Unedited trace := by
  cases hblank : Text.allBlank line with
  | true =>
    rw [executeLine_run_of_blank hblank] at h
    obtain ⟨rfl, -⟩ := holds_pure.mp h
    exact unedited_nil
  | false =>
    rw [executeLine_run hblank] at h
    obtain ⟨told, rest, outcome, rfl, hplan, hrest⟩ := holds_bind.mp h
    refine unedited_append.mpr ⟨(Planning.of_holds hplan).forall_mem fun x hx => ?_, ?_⟩
    · cases x <;> first | rfl | cases hx
    · cases outcome with
      | error e => exact refuse_unedited e _ _ hrest
      | ok plan => exact carryOut_unedited plan _ _ hrest

theorem respond_unedited (item : Item) : (shell.respond item).Obeys unedited := by
  rcases item with e | line | _ | _
  · exact .bind (.note (unedited_admits rfl)) fun _ => .pure _
  · exact fun _ _ h => executeLine_unedited h
  · exact .bind (.writeLine fun _ => unedited_admits rfl) fun _ => .pure _
  · exact .bind (.note (unedited_admits rfl)) fun _ => .pure _

/-- A line is passed over without a word exactly if it is blank. -/
theorem allBlank_iff :
    Text.allBlank line = true ↔ ∃ result, (shell.executeLine line).run.Holds [] result := by
  cases hblank : Text.allBlank line with
  | true =>
    refine iff_of_true rfl ⟨.ok .continue, ?_⟩
    rw [executeLine_run_of_blank hblank]
    exact holds_pure.mpr ⟨rfl, rfl⟩
  | false =>
    refine iff_of_false nofun fun ⟨result, h⟩ => ?_
    rw [executeLine_run hblank] at h
    obtain ⟨told, rest, outcome, hnil, -, hrest⟩ := holds_bind.mp h
    obtain ⟨rfl, rfl⟩ := List.append_eq_nil_iff.mp hnil.symm
    cases outcome with
    | error e =>
      obtain ⟨_, hsaid, -⟩ := holds_refuse.mp hrest
      cases hsaid
    | ok plan =>
      obtain ⟨_, hsaid, -⟩ := holds_note_bind.mp hrest
      cases hsaid

/-! ## After a line was read -/

/-- Whenever a line has been read, it is acted on next. -/
def ActsNext (shell : Shell) (trace : List Exchange) : Prop :=
  ∀ before asked line after, trace = before ++ .readLine asked (.ok (.line line)) :: after →
    ∃ told rest result, after = told ++ rest ∧ (shell.executeLine line).run.Holds told result

namespace ActsNext

theorem of_reads_eq_nil (h : reads trace = []) : shell.ActsNext trace := by
  rintro before asked line after rfl
  have hnone := List.filterMap_eq_nil_iff.mp h (.readLine asked (.ok (.line line))) (by simp)
  cases hnone

theorem of_unedited (h : Unedited trace) : shell.ActsNext trace :=
  of_reads_eq_nil (List.filterMap_eq_nil_iff.mpr fun x hx => by
    have hx := h x hx
    cases x <;> first | rfl | cases hx)

theorem append (h₁ : shell.ActsNext trace₁) (h₂ : shell.ActsNext trace₂) :
    shell.ActsNext (trace₁ ++ trace₂) := by
  intro before asked line after h
  rcases List.append_eq_append_iff.mp h with ⟨gap, rfl, hrest⟩ | ⟨gap, rfl, hrest⟩
  · exact h₂ gap asked line after hrest
  · cases gap with
    | nil => exact h₂ [] asked line after hrest.symm
    | cons x gap =>
      obtain ⟨rfl, rfl⟩ := List.cons.inj hrest
      obtain ⟨told, rest, result, rfl, htold⟩ := h₁ before asked line gap rfl
      exact ⟨told, rest ++ trace₂, result, List.append_assoc .., htold⟩

theorem flatten {parts : List (List Exchange)} (h : ∀ part ∈ parts, shell.ActsNext part) :
    shell.ActsNext parts.flatten := by
  induction parts with
  | nil => exact of_unedited unedited_nil
  | cons part parts ih =>
    obtain ⟨hpart, hparts⟩ := List.forall_mem_cons.mp h
    exact hpart.append (ih hparts)

end ActsNext

/-- A step asks the editor for one item or for nothing, and acts on it at once if it is a line. -/
theorem step_cases (h : shell.step.Holds trace flow) :
    Unedited trace ∨ ∃ shown asked item rest, trace = shown ++ .readLine asked item :: rest ∧
      Unedited shown ∧ Unedited rest ∧ ∀ line, item = .ok (.line line) →
        ∃ told after result, rest = told ++ after ∧
          (shell.executeLine line).run.Holds told result := by
  have hshowing : showDirectory.Obeys unedited :=
    showDirectory_obeys (fun _ => unedited_admits rfl) fun x hx => by
      cases x <;> first | exact unedited_admits rfl | cases hx
  obtain ⟨tried, concluded, result, rfl, htry, hend⟩ := holds_bind.mp h
  have hconcluded : Unedited concluded := by
    cases result with
    | ok value =>
      obtain ⟨rfl, -⟩ := holds_conclude.mp hend
      exact unedited_nil
    | error e =>
      obtain ⟨rfl, -⟩ := holds_conclude.mp hend
      exact unedited_cons.mpr ⟨rfl, unedited_nil⟩
  rcases holds_run_bind.mp htry with ⟨e, hfails, rfl⟩ | ⟨shown, rest, _, rfl, hshown, hread⟩
  · exact .inl (unedited_append.mpr ⟨hshowing _ _ hfails, hconcluded⟩)
  · obtain ⟨item, responded, rfl, hrespond⟩ := holds_readLine_bind.mp hread
    refine .inr ⟨shown, prompt, item, responded ++ concluded, by simp, hshowing _ _ hshown, ?_, ?_⟩
    · refine unedited_append.mpr ⟨?_, hconcluded⟩
      exact respond_unedited item _ _ hrespond
    · rintro line rfl
      exact ⟨responded, concluded, result, rfl, hrespond⟩

theorem step_actsNext (h : shell.step.Holds trace flow) : shell.ActsNext trace := by
  rcases step_cases h with hunedited | ⟨shown, asked, item, rest, rfl, hshown, hrest, hacted⟩
  · exact .of_unedited hunedited
  · refine .append (.of_unedited hshown) ?_
    intro before asked' line after heq
    cases before with
    | nil =>
      obtain ⟨hread, rfl⟩ := List.cons.inj heq
      cases hread
      exact hacted line rfl
    | cons x before =>
      obtain ⟨rfl, rfl⟩ := List.cons.inj heq
      exact ActsNext.of_unedited hrest before asked' line after rfl

theorem step_saves_nothing (h : shell.step.Holds trace flow) : .saveHistory ∉ trace := by
  intro hsave
  rcases step_cases h with hunedited | ⟨shown, asked, item, rest, rfl, hshown, hrest, -⟩
  · cases hunedited _ hsave
  · rcases List.mem_append.mp hsave with hsave | hsave
    · cases hshown _ hsave
    · rcases List.mem_cons.mp hsave with hsave | hsave
      · cases hsave
      · cases hrest _ hsave

theorem steps_actsNext {turns : Nat} (h : (shell.steps turns).Holds trace flow) :
    shell.ActsNext trace := by
  obtain ⟨parts, hparts, rfl, -⟩ := holds_steps h
  exact .flatten fun part hpart =>
    let ⟨_, hstep⟩ := hparts.holds part hpart
    step_actsNext hstep

theorem steps_save_nothing {turns : Nat} (h : (shell.steps turns).Holds trace flow) :
    .saveHistory ∉ trace := by
  obtain ⟨parts, hparts, rfl, -⟩ := holds_steps h
  intro hsave
  obtain ⟨part, hpart, hsave⟩ := List.mem_flatten.mp hsave
  obtain ⟨_, hstep⟩ := hparts.holds part hpart
  exact step_saves_nothing hstep hsave

/-! ## Sessions -/

/-- The last record of a session. -/
def leaving : Exchange := .log ⟨.program, .info, "leaving"⟩

/-- The banner is written, and the log is told if that fails. -/
theorem tryBanner_reports (h : shell.tryBanner.Holds trace ()) :
    ∀ x ∈ trace, x.isReport = true := by
  have hwritten (text : String) : (writeLine text).Obeys (.only (·.isReport = true)) :=
    .writeLine fun _ => Discipline.only_admits.mpr rfl
  have hbanner : shell.banner.Obeys (.only (·.isReport = true)) :=
    .bind (hwritten _) fun _ => .bind (hwritten _) fun _ => .bind (hwritten _) fun _ => hwritten _
  obtain ⟨shown, rest, result, rfl, hshown, hrest⟩ := holds_bind.mp h
  refine List.forall_mem_append.mpr ⟨hbanner _ _ hshown, ?_⟩
  cases result with
  | ok =>
    obtain ⟨rfl, -⟩ := holds_pure.mp hrest
    exact List.forall_mem_nil _
  | error e =>
    obtain rfl := Interaction.holds_note.mp hrest
    exact List.forall_mem_singleton.mpr rfl

theorem tryBanner_unedited (h : shell.tryBanner.Holds trace ()) : Unedited trace := fun x hx =>
  Discipline.only_admits.mp (isReport_unedited x (tryBanner_reports h x hx))

theorem holds_saveHistory :
    (Interaction.saveHistory (Interaction.done ())).Holds trace () ↔ trace = [.saveHistory] :=
  holds_of_turn_iff (fun _ => .saveHistory) fun _ _ =>
    ⟨by rintro ⟨⟩; exact ⟨(), rfl, rfl⟩, by rintro ⟨_, rfl, rfl⟩; constructor⟩

/-- After the steps the history is saved, whatever ended them. -/
theorem holds_session {showsBanner : Bool} {turns : Nat}
    (h : (shell.session showsBanner turns).Holds trace ()) :
    ∃ opening told flow, trace = opening ++ told ++ [.saveHistory, leaving] ∧ Unedited opening ∧
      (shell.steps turns).Holds told flow := by
  have hsteps : ∀ {trace : List Exchange}, (do
        let _ ← shell.steps turns
        Interaction.saveHistory (Interaction.done ())
        Interaction.note .program .info "leaving" : Interaction Unit).Holds trace () →
      ∃ told flow, trace = told ++ [.saveHistory, leaving] ∧
        (shell.steps turns).Holds told flow := by
    intro trace h
    obtain ⟨told, rest, flow, rfl, htold, hend⟩ := holds_bind.mp h
    obtain ⟨saved, left, _, rfl, hsaved, hleft⟩ := holds_bind.mp hend
    obtain rfl := holds_saveHistory.mp hsaved
    obtain rfl := Interaction.holds_note.mp hleft
    exact ⟨told, flow, rfl, htold⟩
  cases showsBanner with
  | false =>
    obtain ⟨told, flow, rfl, htold⟩ := hsteps h
    exact ⟨[], told, flow, rfl, unedited_nil, htold⟩
  | true =>
    obtain ⟨opening, rest, _, rfl, hopening, hrest⟩ := holds_bind.mp h
    obtain ⟨told, flow, rfl, htold⟩ := hsteps hrest
    exact ⟨opening, told, flow, by simp, tryBanner_unedited hopening, htold⟩

/-- A session with the calls that were made for each exchange of it. The history is given the lines
that are acted on, each when it is read and before it is acted on, and is saved once, at the end. -/
structure Remembered (shell : Shell) (path : Option String)
    (played : List (Exchange × List Editor.Call)) : Prop where
  /-- The lines that are given to the history are those that were read, without the blank ones. -/
  added : Editor.linesAdded (played.flatMap Prod.snd) =
    ((reads (played.map Prod.fst)).filterMap Item.line?).filter (!Text.allBlank ·)
  /-- A line that is read is given to the history, unless it is blank, and what is done next is to
  act on it, without another call. -/
  acted : ∀ before asked line calls after,
    played = before ++ (.readLine asked (.ok (.line line)), calls) :: after →
    (calls = .attempt asked (.ok line) ::
      if Text.allBlank line then [] else [.add line (.ok ())]) ∧
    ∃ told rest result, after = told ++ rest ∧
      (shell.executeLine line).run.Holds (told.map Prod.fst) result ∧ ∀ turn ∈ told, turn.2 = []
  /-- The history is saved when all else is done, and not before. -/
  saved : ∃ before calls, played = before ++ [(.saveHistory, calls), (leaving, [])] ∧
    ({ path } : Editor).saveHistory.Makes calls () ∧
    ∀ turn ∈ before, turn.1 ≠ .saveHistory ∧ ∀ file answer, .save file answer ∉ turn.2

section
variable {path : Option String} {played : List (Exchange × List Editor.Call)}

theorem linesAdded_played (hbehind : ∀ turn ∈ played, Editor.Behind path turn.1 turn.2)
    (htakes : ∀ turn ∈ played, Editor.Takes turn.2) :
    Editor.linesAdded (played.flatMap Prod.snd) =
      ((reads (played.map Prod.fst)).filterMap Item.line?).filter (!Text.allBlank ·) := by
  induction played with
  | nil => rfl
  | cons turn played ih =>
    obtain ⟨hturn, hrest⟩ := List.forall_mem_cons.mp hbehind
    obtain ⟨htake, htakes⟩ := List.forall_mem_cons.mp htakes
    have hreads : reads ((turn :: played).map Prod.fst) =
        turn.1.item?.toList ++ reads (played.map Prod.fst) := by
      cases hitem : turn.1.item? <;> simp [reads, hitem]
    rw [List.flatMap_cons, Editor.linesAdded_append, hturn.linesAdded_eq htake, ih hrest htakes,
      hreads, List.filterMap_append, List.filter_append]

/-- However the partners answer, as long as the history takes what it is given. -/
theorem session_remembered {showsBanner : Bool} {turns : Nat}
    (h : (shell.session showsBanner turns).Holds (played.map Prod.fst) ())
    (hbehind : ∀ turn ∈ played, Editor.Behind path turn.1 turn.2)
    (htakes : ∀ turn ∈ played, Editor.Takes turn.2) : shell.Remembered path played := by
  obtain ⟨opening, told, flow, hsaid, hopening, hsteps⟩ := holds_session h
  refine ⟨linesAdded_played hbehind htakes, ?_, ?_⟩
  · have hnext : shell.ActsNext (played.map Prod.fst) := by
      rw [hsaid]
      exact ((ActsNext.of_unedited hopening).append (steps_actsNext hsteps)).append
        (.of_reads_eq_nil rfl)
    rintro before asked line calls after rfl
    have hcalls := (hbehind (.readLine asked (.ok (.line line)), calls) (by simp)).calls_of_line
    obtain ⟨told, rest, result, hafter, htold⟩ :=
      hnext (before.map Prod.fst) asked line (after.map Prod.fst) (by simp)
    obtain ⟨acted, later, rfl, rfl, rfl⟩ := List.map_eq_append_iff.mp hafter
    refine ⟨hcalls, acted, later, result, rfl, htold, fun turn hturn => ?_⟩
    have hunedited := executeLine_unedited htold turn.1 (List.mem_map_of_mem hturn)
    exact (hbehind turn (by simp [hturn])).eq_nil hunedited
  · have hnone : .saveHistory ∉ opening ++ told := by
      intro hsave
      rcases List.mem_append.mp hsave with hsave | hsave
      · cases hopening _ hsave
      · exact steps_save_nothing hsteps hsave
    obtain ⟨before, tail, rfl, hbefore, htail⟩ := List.map_eq_append_iff.mp hsaid
    obtain ⟨⟨save, calls⟩, rest, rfl, rfl, hrest⟩ := List.map_eq_cons_iff.mp htail
    obtain ⟨⟨left, calls'⟩, rest, rfl, rfl, hnil⟩ := List.map_eq_cons_iff.mp hrest
    obtain rfl := List.map_eq_nil_iff.mp hnil
    obtain rfl : calls' = [] := (hbehind (leaving, calls') (by simp)).eq_nil rfl
    obtain _ | hsaved | hother := hbehind (.saveHistory, calls) (by simp)
    · refine ⟨before, calls, rfl, hsaved, fun turn hturn => ?_⟩
      have hne : turn.1 ≠ .saveHistory := fun hsave =>
        hnone (hbefore ▸ hsave ▸ List.mem_map_of_mem hturn)
      exact ⟨hne, (hbehind turn (by simp [hturn])).save_not_mem hne⟩
    · cases hother

end
end Shell
end PipeShell
