import PipeShell.Proofs.Shell.Launched

/-! # Commands written out

A command that a line calls for can be written out as a line again: the tokens of each stage with
single spaces between them, a bar between the stages (`Command.text`). What is written out reads as
the command (`reading_text`), because the runs of words with single spaces between them are the
words (`runs_intercalate`) and the first bar is the one that was put between the stages. So the
commands that some line calls for are the well-formed ones, and the text of one is the line that
stands for all those that call for it (`plan_text`). -/

namespace PipeShell

namespace Line

/-- Words with single spaces between them are the runs of their text. -/
theorem runs_intercalate {words : List (List Char)}
    (hwords : ∀ word ∈ words, word ≠ [] ∧ ' ' ∉ word) : runs ([' '].intercalate words) = words := by
  have hkept : ∀ word ∈ words, (!word.isEmpty) = true := fun word hword => by
    simpa using (hwords word hword).1
  cases words with
  | nil => rfl
  | cons word words =>
    rw [runs, List.splitOn_intercalate ' ' (fun w hw => (hwords w hw).2) (List.cons_ne_nil _ _),
      List.filter_eq_self.mpr hkept]

/-- A text made of parts with a gap between them holds what these hold, and nothing else. -/
theorem mem_intercalate {c : Char} {gap : List Char} {parts : List (List Char)}
    (h : c ∈ gap.intercalate parts) : c ∈ gap ∨ ∃ part ∈ parts, c ∈ part := by
  induction parts with
  | nil => simp at h
  | cons part parts ih =>
    cases parts with
    | nil => exact .inr ⟨part, .head _, by simpa using h⟩
    | cons next parts =>
      rw [List.intercalate_cons_cons, List.mem_append, List.mem_append] at h
      rcases h with (hpart | hgap) | hlater
      · exact .inr ⟨part, .head _, hpart⟩
      · exact .inl hgap
      · exact (ih hlater).imp_right fun ⟨p, hp, hc⟩ => ⟨p, .tail _ hp, hc⟩

/-- Without a bar a line is one stage. -/
theorem stages_of_bar_not_mem {line : String} (h : '|' ∉ line.toList) :
    beforeBar line = line.toList ∧ afterBar line = none := by
  have hnone : afterBar line = none := afterBar_eq_none_iff.mpr h
  exact ⟨beforeBar_of_afterBar_eq_none hnone, hnone⟩

end Line

namespace Argv
open Line

variable {argv : Argv}

theorem toList_text (argv : Argv) :
    argv.text.toList = [' '].intercalate (argv.tokens.map String.toList) :=
  String.toList_intercalate

/-- The text of a vector has its tokens, if these are such as a text can have. -/
theorem tokens_text (h : ∀ token ∈ argv.tokens, token ≠ "" ∧ ' ' ∉ token.toList) :
    Line.tokens argv.text.toList = argv.tokens := by
  have hwords : ∀ word ∈ argv.tokens.map String.toList, word ≠ [] ∧ ' ' ∉ word := by
    intro word hword
    obtain ⟨token, htoken, rfl⟩ := List.mem_map.mp hword
    rw [ne_eq, String.toList_eq_nil_iff]
    exact h token htoken
  rw [Line.tokens, toList_text, runs_intercalate hwords, List.map_map]
  exact List.map_id'' (fun _ => String.ofList_toList) _

/-- Putting spaces between tokens does not make a bar. -/
theorem bar_not_mem_text (h : ∀ token ∈ argv.tokens, '|' ∉ token.toList) :
    '|' ∉ argv.text.toList := by
  intro hbar
  rw [toList_text] at hbar
  rcases mem_intercalate hbar with hgap | ⟨word, hword, hbar⟩
  · exact absurd hgap (by decide)
  · obtain ⟨token, htoken, rfl⟩ := List.mem_map.mp hword
    exact h token htoken hbar

end Argv

namespace Command

/-- The vector after the bar. -/
def second? : Command → Option Argv
  | single _ => none
  | piped _ consumer => some consumer

@[simp] theorem text_single (argv : Argv) : (single argv).text = argv.text := by
  simp [text, stages]

@[simp] theorem text_piped (left right : Argv) :
    (piped left right).text = left.text ++ "|" ++ right.text := by
  simp [text, stages]

namespace WellFormed

variable {limits : Limits} {command : Command}

/-- The first stage by itself is well formed as well, its text being shorter. -/
theorem producer {left right : Argv} (h : (piped left right).WellFormed limits) :
    (single left).WellFormed limits where
  nonempty := List.forall_mem_singleton.mpr (h.nonempty _ (.head _))
  tokens := List.forall_mem_singleton.mpr (h.tokens _ (.head _))
  few := List.forall_mem_singleton.mpr (h.few _ (.head _))
  unpiped := h.unpiped
  foreign := h.foreign
  short := by
    have hshort := h.short
    rw [text_piped, String.length_append, String.length_append] at hshort
    rw [text_single]
    omega

/-- A command that has been written out reads as it is. -/
theorem reading_text (h : command.WellFormed limits) :
    Reading.ofLine command.text = ⟨command.first.tokens, command.second?.map Argv.tokens⟩ := by
  cases command with
  | single argv =>
    have hbar : '|' ∉ argv.text.toList := Argv.bar_not_mem_text h.unpiped
    obtain ⟨hbefore, hafter⟩ := Line.stages_of_bar_not_mem hbar
    rw [text_single, Reading.ofLine, hbefore, hafter, Argv.tokens_text (h.tokens _ (.head _))]
    rfl
  | piped left right =>
    obtain ⟨hbefore, hafter⟩ := Line.eq_append_bar_iff.mp
      ⟨text_piped left right, Argv.bar_not_mem_text h.unpiped⟩
    rw [Reading.ofLine, hbefore, hafter, Option.map_some,
      Argv.tokens_text (h.tokens _ (.head _)), Argv.tokens_text (h.tokens _ (.tail _ (.head _)))]
    rfl

/-- Its first token is there and is no builtin's name. -/
theorem callsProgram (h : command.WellFormed limits) :
    (Reading.ofLine command.text).CallsProgram := by
  have hfirst : command.first ∈ command.stages := by cases command <;> exact .head _
  rw [h.reading_text]
  cases htokens : command.first.tokens with
  | nil => exact (h.nonempty _ hfirst htokens).elim
  | cons name rest =>
    have hprogram : command.first.program = some name := by rw [Argv.program, htokens]; rfl
    exact ⟨name, rfl, h.foreign name hprogram⟩

end WellFormed
end Command

namespace Shell
open Line

variable {shell : Shell} {line : String} {command : Command}

/-- What has been written out calls for the command. -/
theorem called_text (h : command.WellFormed shell.limits) :
    shell.called command.text = .ok (.launch command) := by
  have hcalls := h.callsProgram
  refine called_eq_ok_iff.mpr ⟨h.short, ?_, ?_⟩
  · rw [h.reading_text]
    cases command with
    | single argv =>
      rintro (hmany | ⟨_, hnone, -⟩)
      · exact Nat.not_lt.mpr (h.few _ (.head _)) hmany
      · cases hnone
    | piped left right =>
      rintro (hmany | ⟨_, ⟨rfl⟩, hmany⟩)
      · exact Nat.not_lt.mpr (h.few _ (.head _)) hmany
      · exact Nat.not_lt.mpr (h.few _ (.tail _ (.head _))) hmany
  · rw [h.reading_text] at hcalls ⊢
    cases command with
    | single argv => exact Reading.plan_eq_single_iff.mpr ⟨rfl, rfl, hcalls⟩
    | piped left right =>
      exact Reading.plan_eq_piped_iff.mpr ⟨rfl, rfl, h.nonempty _ (.tail _ (.head _)), hcalls⟩

/-- Where a launch is planned, whatever the partners answer, the line calls for it. -/
theorem plan_eq_launch_iff {σ : Type} (partners : Surroundings σ) (s : σ) :
    ((shell.plan line).run.run partners s).1 = .ok (.launch command) ↔
      shell.called line = .ok (.launch command) := by
  have hplanned : shell.Planned line _ ((shell.plan line).run.run partners s).1 :=
    (Planning.of_holds (Interaction.holds_transcript partners _ s)).planned
  constructor
  · intro hplan
    rw [hplan] at hplanned
    exact hplanned.of_ok.1
  · intro hcalled
    obtain ⟨hshort, hfew, hreading⟩ := called_eq_ok_iff.mp hcalled
    have hcalls := (Reading.plan_eq_launch_iff.mp hreading).1
    generalize (shell.plan line).run.transcript partners s = said,
      ((shell.plan line).run.run partners s).1 = outcome at hplanned
    cases hplanned with
    | tooLong hlong => exact absurd hshort (Nat.not_le.mpr hlong)
    | tooMany _ hmany => exact absurd hmany hfew
    | silent => rw [hreading]
    | builtin _ _ hb => cases (Reading.builtin?_of_callsProgram hcalls).symm.trans hb

/-- Planning undoes writing out. A well-formed command is what planning makes of its text, and
whatever a line is planned as is well formed and is planned so from its text again. Of two lines
that lead to a launch, the texts are equal only where the commands are. -/
theorem plan_text {σ : Type} (partners : Surroundings σ) (shell : Shell) :
    let planned := fun line s => ((shell.plan line).run.run partners s).1
    (∀ left right, (Command.piped left right).WellFormed shell.limits → ∀ s,
      planned (left.text ++ "|" ++ right.text) s = .ok (.launch (.piped left right)) ∧
      planned left.text s = .ok (.launch (.single left))) ∧
    (∀ argv, (Command.single argv).WellFormed shell.limits → ∀ s,
      planned argv.text s = .ok (.launch (.single argv))) ∧
    (∀ line s command, planned line s = .ok (.launch command) →
      command.WellFormed shell.limits ∧
        ∀ s', planned command.text s' = .ok (.launch command)) ∧
    ∀ line₁ line₂ s₁ s₂ command₁ command₂, planned line₁ s₁ = .ok (.launch command₁) →
      planned line₂ s₂ = .ok (.launch command₂) →
      (command₁.text = command₂.text ↔ command₁ = command₂) := by
  intro planned
  have hwritten : ∀ command, command.WellFormed shell.limits → ∀ s,
      planned command.text s = .ok (.launch command) := fun command hwell s =>
    (plan_eq_launch_iff partners s).mpr (called_text hwell)
  have hwell : ∀ line s command, planned line s = .ok (.launch command) →
      command.WellFormed shell.limits := fun line s command hplan =>
    wellFormed_of_called ((plan_eq_launch_iff partners s).mp hplan)
  refine ⟨fun left right hpair s => ?_, fun argv hargv s => ?_, fun line s command hplan => ?_, ?_⟩
  · rw [← Command.text_piped, ← Command.text_single]
    exact ⟨hwritten _ hpair s, hwritten _ hpair.producer s⟩
  · rw [← Command.text_single]
    exact hwritten _ hargv s
  · exact ⟨hwell line s command hplan, hwritten _ (hwell line s command hplan)⟩
  · intro line₁ line₂ s₁ s₂ command₁ command₂ hplan₁ hplan₂
    refine ⟨fun htext => ?_, congrArg Command.text⟩
    have hplan := hwritten command₁ (hwell _ _ _ hplan₁) s₁
    rw [htext, hwritten command₂ (hwell _ _ _ hplan₂) s₁] at hplan
    injection hplan with hplan
    injection hplan with hcommand
    exact hcommand.symm

/-- A line with spaces to spare: a token of its first stage holds a tab, one of its second stage
starts with a bar. -/
theorem plan_text_bars :
    let shell : Shell := { limits := { maxLine := 17, maxArgs := 2 } }
    let left : Argv := ⟨["l\ts", "\"a"]⟩
    let right : Argv := ⟨["|w|", "é"]⟩
    let planned := fun line => ((shell.plan line).run.run Rehearsal.Stage.partners {}).1
    planned " l\ts  \"a | |w|  é" = .ok (.launch (.piped left right)) ∧
      (Command.piped left right).WellFormed shell.limits ∧
      planned "l\ts \"a||w| é" = .ok (.launch (.piped left right)) ∧
      planned "l\ts \"a" = .ok (.launch (.single left)) := by
  intro shell left right planned
  have hfirst : tokens (beforeBar " l\ts  \"a | |w|  é") = left.tokens := by decide +kernel
  have hsecond : (afterBar " l\ts  \"a | |w|  é").map tokens = some right.tokens := by
    decide +kernel
  have hreading : Reading.ofLine " l\ts  \"a | |w|  é" = ⟨left.tokens, some right.tokens⟩ := by
    rw [Reading.ofLine, hfirst, hsecond]
  have hcalled : shell.called " l\ts  \"a | |w|  é" = .ok (.launch (.piped left right)) := by
    refine called_eq_ok_iff.mpr ⟨by decide +kernel, ?_, ?_⟩
    · rw [hreading]
      decide
    · rw [hreading]
      decide
  have hplanned : planned " l\ts  \"a | |w|  é" = .ok (.launch (.piped left right)) :=
    (plan_eq_launch_iff Rehearsal.Stage.partners {}).mpr hcalled
  obtain ⟨hwritten, -, hagain, -⟩ := plan_text Rehearsal.Stage.partners shell
  have hwell := (hagain _ _ _ hplanned).1
  obtain ⟨hpiped, hsingle⟩ := hwritten left right hwell {}
  exact ⟨hplanned, hwell, hpiped, hsingle⟩

end Shell
end PipeShell
