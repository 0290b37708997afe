import PipeShell.Proofs.Rehearsal
import PipeShell.Proofs.Shell.Reading
import PipeShell.Proofs.Shell.Refusal

/-! # Lines with an empty stage

A line of two stages comes to nothing if one of them is empty, unless the first one calls a builtin:
the second stage is looked at only after the first has been dispatched. So `cd /tmp |` changes the
directory and `exit |` ends the session (`plan_empty_stage`). -/

namespace PipeShell
open Line Interaction Output

/-- A builtin asks something of the output or of the directory. -/
theorem Builtin.Performing.exists_asked {user : String} {argv : Argv} {b : Builtin}
    {told : List Exchange} {result : Except IoError Unit}
    (h : b.Performing user argv told result) :
    ∃ x ∈ told, ¬ (x.isOutput = false ∧ x.target? = none) := by
  cases h with
  | moved | unmoved => exact ⟨_, .head _, fun h => by cases h.2⟩
  | told _ hwriting =>
    have hlines : b.lines user ≠ [] := by cases b <;> nofun
    generalize b.lines user = texts at hwriting hlines
    cases hwriting with
    | done => exact (hlines rfl).elim
    | refused | accepted => exact ⟨_, .head _, fun h => by cases h.1⟩

namespace Shell

variable {shell : Shell} {line : String} {left right : List Char}

/-- Planning has found nothing to do, and has asked nothing of the output or the directory. -/
def ComesToNothing (said : List Exchange) (outcome : Except PlanError Plan) : Prop :=
  outcome = .ok .nothing ∧ ∀ x ∈ said, x.isOutput = false ∧ x.target? = none

theorem tokens_spaces {text : List Char} (h : ∀ c ∈ text, c = ' ') : tokens text = [] := by
  rw [tokens, ← List.append_nil text, runs_spaces h, runs_nil, List.map_nil]

/-- Where no builtin is called, an empty stage leaves nothing to do. -/
theorem plan_of_empty {r : Reading} (hnone : r.builtin? = none)
    (hempty : r.first = [] ∨ r.second = some []) : r.plan = .nothing := by
  rcases r.cases with ⟨hcalls, hne, -⟩ | ⟨b, -, hb, -⟩ | ⟨hnil, -⟩
  · rw [Reading.plan_of_callsProgram hcalls, hempty.resolve_left hne]
    rfl
  · cases hnone.symm.trans hb
  · exact Reading.plan_of_first_eq_nil hnil

variable {trace : List Exchange} {outcome : Except PlanError Plan}

/-- A line without a builtin comes to nothing if a stage is empty. -/
theorem Planned.comesToNothing (h : shell.Planned line trace outcome)
    (hshort : line.length ≤ shell.limits.maxLine)
    (hfew : ¬ (Reading.ofLine line).Exceeds shell.limits.maxArgs)
    (hnone : (Reading.ofLine line).builtin? = none)
    (hempty : (Reading.ofLine line).first = [] ∨ (Reading.ofLine line).second = some []) :
    trace = [stagesNoted line] ∧ ComesToNothing trace outcome := by
  cases h with
  | tooLong hlong => exact absurd hshort (Nat.not_le.mpr hlong)
  | tooMany _ hmany => exact absurd hmany hfew
  | silent =>
    rw [plan_of_empty hnone hempty]
    exact ⟨rfl, rfl, List.forall_mem_singleton.mpr ⟨rfl, rfl⟩⟩
  | builtin _ _ hb => cases hnone.symm.trans hb

/-- A line with a builtin does not come to nothing, whatever the second stage is. -/
theorem Planned.not_comesToNothing {b : Builtin} (h : shell.Planned line trace outcome)
    (hshort : line.length ≤ shell.limits.maxLine)
    (hfew : ¬ (Reading.ofLine line).Exceeds shell.limits.maxArgs)
    (hbuiltin : (Reading.ofLine line).builtin? = some b) :
    ¬ ComesToNothing trace outcome ∧
      (outcome = .ok (if b = .exit then .exit else .nothing) ∨ ∃ e, outcome = .error (.io e)) := by
  cases h with
  | tooLong hlong => exact absurd hshort (Nat.not_le.mpr hlong)
  | tooMany _ hmany => exact absurd hmany hfew
  | silent _ _ hnone => cases hbuiltin.symm.trans hnone
  | @builtin _ told result _ _ hb hperforms =>
    obtain rfl := Option.some.inj (hbuiltin.symm.trans hb)
    refine ⟨fun hnothing => ?_, ?_⟩
    · obtain ⟨x, hx, hasked⟩ := hperforms.exists_asked
      exact hasked (hnothing.2 x (.tail _ (.tail _ hx)))
    · rw [Reading.plan_of_builtin hb]
      cases result with
      | ok => exact .inl rfl
      | error e => exact .inr ⟨e, rfl⟩

/-- A line with an empty stage comes to nothing if and only if its first stage does not call a
builtin. A builtin is run as if there were no second stage. -/
theorem plan_empty_stage {σ : Type} (partners : Surroundings σ) (shell : Shell) (s : σ)
    (hline : line.toList = left ++ '|' :: right) (hleft : '|' ∉ left)
    (hempty : (∀ c ∈ left, c = ' ') ∨ ∀ c ∈ right, c = ' ')
    (hshort : line.length ≤ shell.limits.maxLine)
    (hfirst : (tokens left).length ≤ shell.limits.maxArgs)
    (hsecond : (tokens right).length ≤ shell.limits.maxArgs) :
    let outcome := ((shell.plan line).run.run partners s).1
    let said := (shell.plan line).run.transcript partners s
    let builtin := (tokens left).head?.bind Builtin.ofName?
    (ComesToNothing said outcome ↔ builtin = none) ∧
    (builtin = none → said = [stagesNoted line] ∧
      ∀ (δ : Type) (directory : σ → δ), MovesOnly partners directory →
        directory ((shell.plan line).run.run partners s).2 = directory s) ∧
    ∀ b, builtin = some b → (∀ c ∈ right, c = ' ') ∧ RunsBuiltin shell line said (some b) ∧
      (outcome = .ok (if b = .exit then .exit else .nothing) ∨
        ∃ e, outcome = .error (.io e)) := by
  intro outcome said builtin
  obtain ⟨hbefore, hafter⟩ := stages_of_toList hline hleft
  have hreading : Reading.ofLine line = ⟨tokens left, some (tokens right)⟩ := by
    rw [Reading.ofLine, hbefore, hafter, Option.map_some]
  have hfew : ¬ (Reading.ofLine line).Exceeds shell.limits.maxArgs := by
    rw [hreading]
    rintro (hmany | ⟨_, ⟨rfl⟩, hmany⟩)
    · exact Nat.not_lt.mpr hfirst hmany
    · exact Nat.not_lt.mpr hsecond hmany
  have hbuiltin : (Reading.ofLine line).builtin? = builtin := by rw [hreading]; rfl
  have hstages : (Reading.ofLine line).first = [] ∨ (Reading.ofLine line).second = some [] := by
    rw [hreading]
    exact hempty.imp tokens_spaces fun h => congrArg some (tokens_spaces h)
  have hplanned : shell.Planned line said outcome :=
    (Planning.of_holds (holds_transcript partners _ s)).planned
  refine ⟨⟨fun hnothing => ?_, fun hnone => ?_⟩, fun hnone => ?_, fun b hb => ⟨?_, ?_, ?_⟩⟩
  · cases hb : builtin with
    | none => rfl
    | some b =>
      exact ((hplanned.not_comesToNothing hshort hfew (hbuiltin.trans hb)).1 hnothing).elim
  · exact (hplanned.comesToNothing hshort hfew (hbuiltin.trans hnone) hstages).2
  · obtain ⟨hsaid, -⟩ := hplanned.comesToNothing hshort hfew (hbuiltin.trans hnone) hstages
    have hstays : ∀ x ∈ said, x.moves = false := by
      rw [hsaid]
      exact List.forall_mem_singleton.mpr rfl
    exact ⟨hsaid, fun δ directory hmoves => hmoves.run_eq _ s hstays⟩
  · refine hempty.resolve_left fun hspaces => ?_
    have hnone : builtin = none := by simp [builtin, tokens_spaces hspaces]
    cases hb.symm.trans hnone
  · have hruns := hplanned.runsBuiltin
    rw [if_pos ⟨hshort, hfew⟩, hbuiltin, hb] at hruns
    exact hruns
  · exact (hplanned.not_comesToNothing hshort hfew (hbuiltin.trans hb)).2

/-! Of a line with an empty second stage, the first one is run: the shell moves to `/tmp`. -/

section

theorem tokens_cd : tokens "cd /tmp ".toList = ["cd", "/tmp"] := by decide +kernel

theorem toList_cd : "cd /tmp |".toList = "cd /tmp ".toList ++ '|' :: [] := by decide +kernel

def atHome : Rehearsal.Stage := { directory := { current := "/home", existing := ["/tmp"] } }

theorem moves_cd :
    ((({} : Shell).plan "cd /tmp |").run.run Rehearsal.Stage.partners atHome).2.directory.current =
      "/tmp" := by decide +kernel

/-- An empty stage does not always make its line a no-op. -/
theorem not_forall_unchanged_of_empty_stage :
    ¬ ∀ (shell : Shell) (s : Rehearsal.Stage) (line : String) (left right : List Char),
      line.toList = left ++ '|' :: right → '|' ∉ left →
      ((∀ c ∈ left, c = ' ') ∨ ∀ c ∈ right, c = ' ') → line.length ≤ shell.limits.maxLine →
      (tokens left).length ≤ shell.limits.maxArgs →
      (tokens right).length ≤ shell.limits.maxArgs →
      let planned := (shell.plan line).run.run Rehearsal.Stage.partners s
      planned.1 = .ok .nothing ∧ planned.2.directory.current = s.directory.current ∧
        planned.2.sink.accepted = s.sink.accepted := by
  intro h
  obtain ⟨-, hstays, -⟩ := h {} atHome _ _ _ toList_cd (by decide) (.inr (List.forall_mem_nil _))
    (by decide) (by rw [tokens_cd]; decide) (by decide)
  rw [moves_cd] at hstays
  exact absurd hstays (by decide)

theorem plan_empty_stage_cd :
    let planning := (({} : Shell).plan "cd /tmp |").run
    let said := planning.transcript Rehearsal.Stage.partners atHome
    let planned := planning.run Rehearsal.Stage.partners atHome
    RunsBuiltin {} "cd /tmp |" said (some .cd) ∧ ¬ ComesToNothing said planned.1 ∧
      planned.2.directory.current = "/tmp" := by
  intro planning said planned
  obtain ⟨hnothing, -, hruns⟩ := plan_empty_stage Rehearsal.Stage.partners {} atHome toList_cd
    (by decide) (.inr (List.forall_mem_nil _)) (by decide) (by rw [tokens_cd]; decide) (by decide)
  rw [tokens_cd] at hnothing hruns
  obtain ⟨-, hcd, -⟩ := hruns .cd (by decide)
  refine ⟨hcd, fun h => ?_, moves_cd⟩
  exact absurd (hnothing.mp h) (by decide)

end

end Shell
end PipeShell
