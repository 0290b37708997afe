import Mathlib.Data.List.TakeWhile
import PipeShell.Argv.Basic
import PipeShell.Line.Stages

/-! # Runs of a line

A line as it stands, without a reader: the text before and after its first bar, and in a text the
maximal runs of characters other than the space. A repetition of words finds these runs and leaves
nothing (`Argv.words_eq`), so they are the tokens of a stage (`Argv.ofStage_eq`), and the first bar
divides a line as the reader of stages does (`Stages.ofLine_eq`).

Main results: a line is put together from its stages again and is divided in one way only
(`Stages.ofLine_lossless`), and the tokens of a stage are the runs that stand in it, each at its
place (`RunAt`), with nothing between them but spaces (`Argv.ofStage_lossless`). -/

namespace PipeShell

namespace Line

/-- The text before the first bar; without a bar, all of it. -/
def beforeBar (line : String) : List Char := line.toList.take (line.toList.idxOf '|')

/-- The text after the first bar, if there is one. -/
def afterBar (line : String) : Option (List Char) :=
  if '|' ∈ line.toList then some (line.toList.drop (line.toList.idxOf '|' + 1)) else none

/-- The maximal runs of characters other than the space, in their order: what is left of the parts
between the spaces without the empty ones. -/
def runs (text : List Char) : List (List Char) := (text.splitOn ' ').filter (!·.isEmpty)

/-- The runs as tokens. -/
def tokens (text : List Char) : List String := (runs text).map String.ofList

@[simp] theorem runs_nil : runs [] = [] := rfl

/-- A space in front of a text makes no difference. -/
@[simp] theorem runs_space (text : List Char) : runs (' ' :: text) = runs text := by
  simp [runs, List.splitOn, List.splitOnP_cons_eq_if_modifyHead]

theorem runs_spaces {gap : List Char} (hgap : ∀ c ∈ gap, c = ' ') (text : List Char) :
    runs (gap ++ text) = runs text := by
  induction gap with
  | nil => rfl
  | cons c gap ih =>
    obtain ⟨hc, hgap⟩ := List.forall_mem_cons.mp hgap
    rw [List.cons_append, hc, runs_space, ih hgap]

/-- A run lasts to the next space or to the end of the text. -/
theorem runs_append {run rest : List Char} (hne : run ≠ []) (hrun : ∀ c ∈ run, c ≠ ' ')
    (hrest : ∀ c ∈ rest.head?, c = ' ') : runs (run ++ rest) = run :: runs rest := by
  have hinside : ∀ c ∈ run, (c == ' ') = false := fun c hc => beq_false_of_ne (hrun c hc)
  have hkept : (!run.isEmpty) = true := by simpa using hne
  cases rest with
  | nil => simp [runs, List.splitOn, List.splitOnP_eq_singleton hinside, hkept]
  | cons c rest =>
    obtain rfl := hrest c rfl
    rw [runs_space]
    simp [runs, List.splitOn, List.splitOnP_append_cons_of_forall_mem hinside, hkept]

/-! ## Tokens

What a token is made of, and that the tokens of a text, one space apart, are no longer than it. -/

section
variable {text run : List Char}

/-- A part between two spaces holds characters of the text, but no space. -/
theorem mem_splitOn_space {part : List Char} (h : part ∈ text.splitOn ' ') :
    ∀ c ∈ part, c ∈ text ∧ c ≠ ' ' := by
  induction text generalizing part with
  | nil =>
    obtain rfl : part = [] := by simpa using h
    exact List.forall_mem_nil _
  | cons d text ih =>
    have hlater : ∀ {part : List Char}, part ∈ text.splitOn ' ' →
        ∀ c ∈ part, c ∈ d :: text ∧ c ≠ ' ' :=
      fun hpart c hc => ⟨.tail _ (ih hpart c hc).1, (ih hpart c hc).2⟩
    rw [List.splitOn_cons_eq_if_modifyHead] at h
    cases hsplit : text.splitOn ' ' with
    | nil => exact absurd hsplit (List.splitOn_ne_nil _ _)
    | cons first parts =>
      rw [hsplit] at h hlater
      by_cases hd : d = ' '
      · rw [if_pos (beq_iff_eq.mpr hd), List.mem_cons] at h
        rcases h with rfl | h
        · exact List.forall_mem_nil _
        · exact hlater h
      · rw [if_neg (by simpa using hd), List.modifyHead_cons, List.mem_cons] at h
        rcases h with rfl | h
        · exact List.forall_mem_cons.mpr ⟨⟨.head _, hd⟩, hlater (.head _)⟩
        · exact hlater (.tail _ h)

/-- A run is not empty, and holds characters of the text, but no space. -/
theorem mem_runs (h : run ∈ runs text) : run ≠ [] ∧ ∀ c ∈ run, c ∈ text ∧ c ≠ ' ' := by
  obtain ⟨hpart, hne⟩ := List.mem_filter.mp h
  exact ⟨by simpa using hne, mem_splitOn_space hpart⟩

theorem mem_tokens {token : String} (h : token ∈ tokens text) :
    token ≠ "" ∧ ∀ c ∈ token.toList, c ∈ text ∧ c ≠ ' ' := by
  obtain ⟨run, hrun, rfl⟩ := List.mem_map.mp h
  rw [ne_eq, ← String.toList_eq_nil_iff, String.toList_ofList]
  exact mem_runs hrun

theorem length_intercalate_cons (gap part : List Char) (parts : List (List Char)) :
    (gap.intercalate parts).length ≤ (gap.intercalate (part :: parts)).length := by
  cases parts with
  | nil => simp
  | cons next parts =>
    rw [List.intercalate_cons_cons]
    simp only [List.length_append]
    omega

/-- Of fewer parts a shorter text is made. -/
theorem length_intercalate_le (gap : List Char) {parts₁ parts₂ : List (List Char)}
    (h : parts₁.Sublist parts₂) :
    (gap.intercalate parts₁).length ≤ (gap.intercalate parts₂).length := by
  induction h with
  | slnil => exact Nat.le_refl _
  | cons part _ ih => exact Nat.le_trans ih (length_intercalate_cons gap part _)
  | @cons_cons parts₁ parts₂ part h ih =>
    cases parts₂ with
    | nil => rw [List.sublist_nil.mp h]
    | cons next₂ parts₂ =>
      cases parts₁ with
      | nil =>
        rw [List.intercalate_singleton, List.intercalate_cons_cons]
        simp only [List.length_append]
        omega
      | cons next₁ parts₁ =>
        rw [List.intercalate_cons_cons, List.intercalate_cons_cons]
        simp only [List.length_append]
        omega

/-- With single spaces between them, the tokens of a text are no longer than the text. -/
theorem length_intercalate_tokens (text : List Char) :
    (" ".intercalate (tokens text)).length ≤ text.length := by
  have hruns : (" ".intercalate (tokens text)).toList = [' '].intercalate (runs text) := by
    rw [String.toList_intercalate, tokens, List.map_map]
    have hid : String.toList ∘ String.ofList = id := funext fun _ => String.toList_ofList
    rw [hid, List.map_id]
    rfl
  calc (" ".intercalate (tokens text)).length
      = ([' '].intercalate (runs text)).length := by rw [← hruns, String.length_toList]
    _ ≤ ([' '].intercalate (text.splitOn ' ')).length :=
      length_intercalate_le _ List.filter_sublist
    _ = text.length := by rw [List.intercalate_splitOn]

end

/-! ## Places -/

/-- A maximal run of characters other than the space: it stands in the text behind `start`
characters, and next to it are spaces or the ends of the text. -/
def RunAt (text : List Char) (start : Nat) (run : List Char) : Prop :=
  ∃ before after, text = before ++ (run ++ after) ∧ before.length = start ∧ run ≠ [] ∧
    (∀ c ∈ run, c ≠ ' ') ∧ (∀ c ∈ before.getLast?, c = ' ') ∧ ∀ c ∈ after.head?, c = ' '

section
variable {text run rest : List Char} {start : Nat}

theorem head?_dropWhile_ne {p : Char → Bool} (text : List Char) :
    ∀ c ∈ (text.dropWhile p).head?, p c = false := by
  intro c hc
  have hstop := List.head?_dropWhile_not p text
  rw [Option.mem_def.mp hc] at hstop
  simpa using hstop

/-- Texts are made of spaces and of runs that last to the next space. -/
@[elab_as_elim]
theorem runs_induction {motive : List Char → Prop} (nil : motive [])
    (space : ∀ text, motive text → motive (' ' :: text))
    (run : ∀ run rest, run ≠ [] → (∀ c ∈ run, c ≠ ' ') → (∀ c ∈ rest.head?, c = ' ') →
      motive rest → motive (run ++ rest)) (text : List Char) : motive text := by
  -- A run takes many characters at once, so the induction is on the length.
  induction hlength : text.length using Nat.strongRecOn generalizing text with
  | ind n ih =>
    subst hlength
    cases text with
    | nil => exact nil
    | cons c text =>
      by_cases hc : c = ' '
      · rw [hc]
        exact space text (ih _ (Nat.lt_succ_self _) text rfl)
      · have hshorter : ((c :: text).dropWhile (· != ' ')).length < (c :: text).length := by
          rw [List.dropWhile_cons_of_pos (by simpa using hc), List.length_cons]
          exact Nat.lt_succ_of_le (List.dropWhile_sublist _).length_le
        rw [← List.takeWhile_append_dropWhile (p := (· != ' ')) (l := c :: text)]
        refine run _ _ ?_ (fun d hd => ?_) (fun d hd => ?_) (ih _ hshorter _ rfl)
        · rw [List.takeWhile_cons_of_pos (by simpa using hc)]
          exact List.cons_ne_nil _ _
        · simpa using List.mem_takeWhile_imp hd
        · simpa using head?_dropWhile_ne (c :: text) d hd

/-- The runs hold all of a text but its spaces. -/
theorem flatten_runs (text : List Char) : (runs text).flatten = text.filter (· != ' ') := by
  induction text using runs_induction with
  | nil => rfl
  | space text ih => simpa using ih
  | run run rest hne hrun hrest ih =>
    have hkept : run.filter (· != ' ') = run :=
      List.filter_eq_self.mpr fun c hc => by simpa using hrun c hc
    rw [runs_append hne hrun hrest, List.flatten_cons, ih, List.filter_append, hkept]

theorem forall_mem_getLast?_cons {c : Char} {before : List Char} (hc : c = ' ') :
    (∀ d ∈ (c :: before).getLast?, d = ' ') ↔ ∀ d ∈ before.getLast?, d = ' ' := by
  rw [List.getLast?_cons]
  cases before.getLast? <;> simp [hc]

theorem runAt_space : RunAt (' ' :: text) start run ↔ ∃ s, start = 1 + s ∧ RunAt text s run := by
  constructor
  · rintro ⟨before, after, htext, rfl, hne, hrun, hopens, hcloses⟩
    cases before with
    | nil =>
      obtain ⟨c, run, rfl⟩ := List.exists_cons_of_ne_nil hne
      cases htext
      exact absurd rfl (hrun ' ' (.head _))
    | cons c before =>
      cases htext
      rw [forall_mem_getLast?_cons rfl] at hopens
      exact ⟨_, Nat.add_comm _ _, before, after, rfl, rfl, hne, hrun, hopens, hcloses⟩
  · rintro ⟨_, rfl, before, after, rfl, rfl, hne, hrun, hopens, hcloses⟩
    exact ⟨' ' :: before, after, rfl, Nat.add_comm _ _, hne, hrun,
      (forall_mem_getLast?_cons rfl).mpr hopens, hcloses⟩

/-- The first run of a text that starts with one is this, and the others are those of the rest. -/
theorem runAt_append {first : List Char} (hne : first ≠ []) (hfirst : ∀ c ∈ first, c ≠ ' ')
    (hrest : ∀ c ∈ rest.head?, c = ' ') : RunAt (first ++ rest) start run ↔
      (start = 0 ∧ run = first) ∨ ∃ s, start = first.length + s ∧ RunAt rest s run := by
  constructor
  · rintro ⟨before, after, htext, rfl, hrun, hinside, hopens, hcloses⟩
    rcases List.append_eq_append_iff.mp htext with ⟨before, rfl, rfl⟩ | ⟨left, rfl, hrunning⟩
    · refine .inr ⟨_, List.length_append, before, after, rfl, rfl, hrun, hinside, ?_, hcloses⟩
      intro c hc
      exact hopens c (by rw [List.getLast?_append, Option.mem_def.mp hc]; rfl)
    · cases hlast : before.getLast? with
      | some c =>
        have hmem := List.mem_append_left left (List.mem_of_getLast? hlast)
        exact absurd (hopens c hlast) (hfirst c hmem)
      | none =>
        obtain rfl := List.getLast?_eq_none_iff.mp hlast
        refine .inl ⟨rfl, ?_⟩
        rcases List.append_eq_append_iff.mp hrunning with ⟨more, rfl, rfl⟩ | ⟨more, rfl, rfl⟩
        · cases more with
          | nil => simp
          | cons c more => exact absurd (hcloses c rfl) (hfirst c (by simp))
        · cases more with
          | nil => simp
          | cons c more => exact absurd (hrest c rfl) (hinside c (by simp))
  · rintro (⟨rfl, rfl⟩ | ⟨_, rfl, before, after, rfl, rfl, hrun, hinside, hopens, hcloses⟩)
    · exact ⟨[], rest, rfl, rfl, hne, hfirst, nofun, hrest⟩
    · refine ⟨first ++ before, after, (List.append_assoc ..).symm, List.length_append, hrun,
        hinside, fun c hc => ?_, hcloses⟩
      cases hlast : before.getLast? with
      | some d =>
        rw [List.getLast?_append, hlast, Option.some_or, Option.mem_some] at hc
        exact hopens c (hlast.trans (congrArg some hc))
      | none =>
        obtain rfl := List.getLast?_eq_none_iff.mp hlast
        obtain ⟨d, run, rfl⟩ := List.exists_cons_of_ne_nil hrun
        exact absurd (hrest d rfl) (hinside d (.head _))

/-- What stands in a text that begins `n` characters earlier. -/
def shifted (n : Nat) (places : List (Nat × List Char)) : List (Nat × List Char) :=
  places.map fun place => (n + place.1, place.2)

theorem mem_shifted {n : Nat} {places : List (Nat × List Char)} :
    (start, run) ∈ shifted n places ↔ ∃ s, start = n + s ∧ (s, run) ∈ places := by
  simp only [shifted, List.mem_map, Prod.mk.injEq, Prod.exists]
  grind

/-- The places of the runs, in the order in which they stand. -/
structure Places (text : List Char) (places : List (Nat × List Char)) : Prop where
  mem_iff : ∀ start run, (start, run) ∈ places ↔ RunAt text start run
  sorted : places.Pairwise fun p q => p.1 < q.1
  runs_eq : runs text = places.map Prod.snd

theorem exists_places (text : List Char) : ∃ places, Places text places := by
  induction text using runs_induction with
  | nil =>
    refine ⟨[], fun start run => iff_of_false List.not_mem_nil ?_, .nil, rfl⟩
    rintro ⟨before, after, htext, -, hne, -⟩
    simp [hne] at htext
  | space text ih =>
    obtain ⟨places, hmem, hsorted, hruns⟩ := ih
    refine ⟨shifted 1 places, fun start run => ?_, ?_, ?_⟩
    · simp only [mem_shifted, runAt_space, hmem]
    · exact List.pairwise_map.mpr (hsorted.imp fun h => Nat.add_lt_add_left h 1)
    · rw [runs_space, hruns, shifted, List.map_map]
      rfl
  | run first rest hne hfirst hrest ih =>
    obtain ⟨places, hmem, hsorted, hruns⟩ := ih
    have hpos : 0 < first.length := List.length_pos_iff.mpr hne
    refine ⟨(0, first) :: shifted first.length places, fun start run => ?_, ?_, ?_⟩
    · simp only [List.mem_cons, Prod.mk.injEq, mem_shifted, runAt_append hne hfirst hrest, hmem]
    · refine List.pairwise_cons.mpr ⟨fun place hplace => ?_, ?_⟩
      · obtain ⟨s, hs, -⟩ := mem_shifted.mp hplace
        show 0 < place.1
        omega
      · exact List.pairwise_map.mpr (hsorted.imp fun h => Nat.add_lt_add_left h _)
    · rw [runs_append hne hfirst hrest, hruns, shifted, List.map_cons, List.map_map]
      rfl

end

/-! ## Stages -/

theorem afterBar_eq_none_iff {line : String} : afterBar line = none ↔ '|' ∉ line.toList := by
  simp [afterBar]

theorem beforeBar_of_afterBar_eq_none {line : String} (h : afterBar line = none) :
    beforeBar line = line.toList := by
  rw [beforeBar, List.idxOf_eq_length (afterBar_eq_none_iff.mp h), List.take_length]

section
variable {line : String} {left right : List Char}

/-- The bar that divides a line is its first one. -/
theorem bar_not_mem_beforeBar (line : String) : '|' ∉ beforeBar line := by
  intro h
  obtain ⟨i, hi, hbar⟩ := List.getElem_of_mem h
  simp only [beforeBar, List.getElem_take] at hbar
  rw [beforeBar, List.length_take] at hi
  have hbefore : i < line.toList.idxOf '|' := by omega
  exact absurd (beq_iff_eq.mpr hbar) (by simpa using List.not_of_lt_findIdx hbefore)

theorem toList_of_afterBar (h : afterBar line = some right) :
    line.toList = beforeBar line ++ '|' :: right := by
  have hbar : '|' ∈ line.toList := by
    by_contra hbar
    simp [afterBar, hbar] at h
  rw [afterBar, if_pos hbar, Option.some.injEq] at h
  have hindex : line.toList.idxOf '|' < line.toList.length := List.idxOf_lt_length_iff.mpr hbar
  have hcut : '|' :: right = line.toList.drop (line.toList.idxOf '|') := by
    rw [List.drop_eq_getElem_cons hindex, List.getElem_idxOf, h]
  rw [hcut, beforeBar, List.take_append_drop]

/-- A line is divided in one way only. -/
theorem stages_of_toList (hline : line.toList = left ++ '|' :: right) (hleft : '|' ∉ left) :
    beforeBar line = left ∧ afterBar line = some right := by
  have hbar : '|' ∈ line.toList := by simp [hline]
  have hindex : line.toList.idxOf '|' = left.length := by
    rw [hline, List.idxOf_append, if_neg hleft, List.idxOf_cons_self, Nat.zero_add]
  refine ⟨?_, ?_⟩
  · rw [beforeBar, hindex, hline, List.take_left]
  · rw [afterBar, if_pos hbar, hindex, hline, List.drop_append]
    simp

/-- The parts that a line is put together from, if there is no bar in the first one. -/
theorem eq_append_bar_iff {left right : String} :
    line = left ++ "|" ++ right ∧ '|' ∉ left.toList ↔
      beforeBar line = left.toList ∧ afterBar line = some right.toList := by
  have hline : line = left ++ "|" ++ right ↔ line.toList = left.toList ++ '|' :: right.toList := by
    rw [← String.toList_inj, String.toList_append, String.toList_append, List.append_assoc]
    rfl
  rw [hline]
  constructor
  · rintro ⟨htext, hleft⟩
    exact stages_of_toList htext hleft
  · rintro ⟨hleft, hafter⟩
    have htext := toList_of_afterBar hafter
    have hfree := bar_not_mem_beforeBar line
    rw [hleft] at htext hfree
    exact ⟨htext, hfree⟩

end

namespace Stages

/-- The reader of stages divides a line at its first bar, and reads all of it. -/
theorem reader_eq (line : String) :
    reader line.toList = some ((beforeBar line, afterBar line), []) := by
  have hindex : line.toList.findIdx (fun c => !(c != '|')) = line.toList.idxOf '|' := by
    simp only [bne, Bool.not_not, List.idxOf]
  have hleft : line.toList.takeWhile (· != '|') = beforeBar line := by
    rw [List.takeWhile_eq_take_findIdx_not, hindex, beforeBar]
  have hright : line.toList.dropWhile (· != '|') = line.toList.drop (line.toList.idxOf '|') := by
    rw [List.dropWhile_eq_drop_findIdx_not, hindex]
  by_cases hbar : '|' ∈ line.toList
  · have hcut : line.toList.drop (line.toList.idxOf '|') =
        '|' :: line.toList.drop (line.toList.idxOf '|' + 1) := by
      rw [List.drop_eq_getElem_cons (List.idxOf_lt_length_iff.mpr hbar), List.getElem_idxOf]
    simp [reader, Reader.takeWhile, Reader.optional, Reader.after, Reader.char, Reader.rest, hleft,
      hright, hcut, afterBar, hbar]
  · have hnone : line.toList.dropWhile (· != '|') = [] := by
      rw [hright, List.idxOf_eq_length hbar, List.drop_length]
    simp [reader, Reader.takeWhile, Reader.optional, Reader.after, Reader.char, hnone, hleft,
      afterBar, hbar]

theorem ofLine_eq (line : String) :
    ofLine line = match afterBar line with
      | none => .single line
      | some right => .piped (String.ofList (beforeBar line)) (String.ofList right) := by
  rw [ofLine, reader_eq]
  cases afterBar line <;> rfl

/-- A line is its stages with the bar between them, and no bar in the first one. It has stages so in
one way only, and it has them if there is a bar in it. The reader comes to the end of every line. -/
theorem ofLine_lossless (line : String) :
    (∀ stage, ofLine line = .single stage ↔ '|' ∉ line.toList ∧ stage = line) ∧
    (∀ left right, ofLine line = .piped left right ↔
      line = left ++ "|" ++ right ∧ '|' ∉ left.toList) ∧
    ('|' ∈ line.toList ↔ ∃! parts : String × String,
      line = parts.1 ++ "|" ++ parts.2 ∧ '|' ∉ parts.1.toList) ∧
    ∃ left right, reader line.toList = some ((left, right), []) ∧
      (right = none ↔ '|' ∉ line.toList) := by
  refine ⟨fun stage => ?_, fun left right => ?_, ?_, _, _, reader_eq line, afterBar_eq_none_iff⟩
  · rw [ofLine_eq, ← afterBar_eq_none_iff]
    cases hafter : afterBar line with
    | none => simp [eq_comm]
    | some right => simp
  · rw [eq_append_bar_iff, ofLine_eq]
    cases hafter : afterBar line with
    | none => simp
    | some text =>
      rw [Stages.piped.injEq, ← String.toList_inj, ← String.toList_inj, String.toList_ofList,
        String.toList_ofList, Option.some.injEq]
  · simp only [eq_append_bar_iff]
    constructor
    · intro hbar
      obtain ⟨right, hright⟩ : ∃ right, afterBar line = some right := by
        rw [← Option.ne_none_iff_exists', ne_eq, afterBar_eq_none_iff, not_not]
        exact hbar
      refine ⟨(String.ofList (beforeBar line), String.ofList right), ?_, ?_⟩
      · simp [hright]
      · rintro ⟨left', right'⟩ ⟨hleft, hafter⟩
        rw [hleft, Option.some.inj (hright.symm.trans hafter), String.ofList_toList,
          String.ofList_toList]
    · rintro ⟨parts, ⟨-, hafter⟩, -⟩
      by_contra hbar
      rw [afterBar_eq_none_iff.mpr hbar] at hafter
      cases hafter

end Stages
end Line

namespace Argv
open Line

variable {text run left : List Char}

/-- A word is a run, and the spaces behind it are all that stand there. -/
theorem word_spaces_eq_some (h : (word.followed spaces) text = some (run, left)) :
    ∃ gap, text = run ++ (gap ++ left) ∧ run ≠ [] ∧ (∀ c ∈ run, c ≠ ' ') ∧
      (∀ c ∈ (gap ++ left).head?, c = ' ') ∧ (∀ c ∈ gap, c = ' ') ∧
      ∀ c ∈ left.head?, c ≠ ' ' := by
  cases hword : word text with
  | none => simp [Reader.followed, hword] at h
  | some read =>
    obtain ⟨run', rest⟩ := read
    have hrun : run' ≠ [] ∧ run' = text.takeWhile (· != ' ') ∧
        rest = text.dropWhile (· != ' ') := by
      simp only [word, Reader.takeWhile1] at hword
      split at hword
      · cases hword
      · rename_i hne
        cases hword
        exact ⟨hne, rfl, rfl⟩
    simp only [Reader.followed, hword, spaces, Reader.takeWhile, Option.some.injEq,
      Prod.mk.injEq] at h
    obtain ⟨rfl, rfl⟩ := h
    obtain ⟨hne, rfl, rfl⟩ := hrun
    refine ⟨(text.dropWhile (· != ' ')).takeWhile (· == ' '), ?_, hne, ?_, ?_, ?_, ?_⟩
    · rw [List.takeWhile_append_dropWhile, List.takeWhile_append_dropWhile]
    · intro c hc
      simpa using List.mem_takeWhile_imp hc
    · rw [List.takeWhile_append_dropWhile]
      intro c hc
      simpa using head?_dropWhile_ne text c hc
    · intro c hc
      simpa using List.mem_takeWhile_imp hc
    · intro c hc
      simpa using head?_dropWhile_ne _ c hc

theorem word_spaces_eq_none (h : (word.followed spaces) text = none) :
    ∀ c ∈ text.head?, c = ' ' := by
  intro c hc
  cases text with
  | nil => cases hc
  | cons d text =>
    obtain rfl : d = c := Option.some.inj hc
    by_contra hd
    simp [Reader.followed, word, Reader.takeWhile1, hd, spaces, Reader.takeWhile] at h

/-- No word is read without making the rest shorter. -/
theorem length_lt_of_word_spaces (h : (word.followed spaces) text = some (run, left)) :
    left.length < text.length := by
  obtain ⟨gap, rfl, hne, -⟩ := word_spaces_eq_some h
  have hpos : 0 < run.length := List.length_pos_iff.mpr hne
  simp only [List.length_append]
  omega

/-- A text that starts with no space is read word by word to its end. -/
theorem many_word_eq (text : List Char) (htext : ∀ c ∈ text.head?, c ≠ ' ') :
    Reader.many (word.followed spaces) text = some (runs text, []) := by
  induction text using Reader.many.induct (word.followed spaces) with
  | case1 text hnone =>
    rw [Reader.many, hnone]
    cases text with
    | nil => rfl
    | cons c text => exact absurd (word_spaces_eq_none hnone c rfl) (htext c rfl)
  | case2 text run left hread hshorter hfails ih =>
    obtain ⟨_, -, -, -, -, -, hleft⟩ := word_spaces_eq_some hread
    cases hfails.symm.trans (ih hleft)
  | case3 text run left hread hshorter words rest hmany ih =>
    obtain ⟨gap, rfl, hne, hrun, hrest, hgap, hleft⟩ := word_spaces_eq_some hread
    rw [Reader.many, hread]
    simp only [hshorter, if_true, ih hleft, runs_append hne hrun hrest, runs_spaces hgap]
  | case4 text run left hread hlonger => exact absurd (length_lt_of_word_spaces hread) hlonger

/-- The words of a text are its runs, and nothing is left behind them. -/
theorem words_eq (text : List Char) : words text = some (runs text, []) := by
  have hgap : ∀ c ∈ text.takeWhile (· == ' '), c = ' ' := fun c hc => by
    simpa using List.mem_takeWhile_imp hc
  have hstart : ∀ c ∈ (text.dropWhile (· == ' ')).head?, c ≠ ' ' := fun c hc => by
    simpa using head?_dropWhile_ne text c hc
  have hskipped : runs text = runs (text.dropWhile (· == ' ')) := by
    rw [← runs_spaces hgap (text.dropWhile (· == ' ')), List.takeWhile_append_dropWhile]
  rw [hskipped]
  exact many_word_eq _ hstart

theorem ofStage_eq (stage : String) (maxArgs : Nat) :
    ofStage stage maxArgs =
      if maxArgs < (Line.tokens stage.toList).length then .error (.tooManyArguments maxArgs)
      else .ok ⟨Line.tokens stage.toList⟩ := by
  simp only [ofStage, words_eq, Line.tokens, List.length_map]
  rfl

/-- The tokenizer loses nothing. Each word and the spaces behind it make the rest shorter, and all
of a stage is read. The tokens are the maximal runs of characters other than the space, in the order
of their places: the parts between the spaces without the empty ones, which together are the text
without its spaces. They are refused only if there are too many of them. -/
theorem ofStage_lossless (stage : String) (maxArgs : Nat) :
    (∀ text token left, (word.followed spaces) text = some (token, left) →
      left.length < text.length) ∧
    ∃ places : List (Nat × List Char),
      (∀ start run, (start, run) ∈ places ↔ RunAt stage.toList start run) ∧
      places.Pairwise (fun p q => p.1 < q.1) ∧
      let found := places.map Prod.snd
      words stage.toList = some (found, []) ∧
      found = (stage.toList.splitOn ' ').filter (!·.isEmpty) ∧
      found.flatten = stage.toList.filter (· != ' ') ∧
      ofStage stage maxArgs =
        if maxArgs < found.length then .error (.tooManyArguments maxArgs)
        else .ok ⟨found.map String.ofList⟩ := by
  obtain ⟨places, hmem, hsorted, hruns⟩ := exists_places stage.toList
  refine ⟨fun text token left => length_lt_of_word_spaces, places, hmem, hsorted, ?_⟩
  simp only [← hruns]
  refine ⟨words_eq _, rfl, flatten_runs _, ?_⟩
  rw [ofStage_eq, Line.tokens, List.length_map]

/-- A tab, a quote and a blank that is not the space are text. -/
theorem ofStage_lossless_blanks :
    (word.followed spaces) "é  b".toList = some (['é'], ['b']) ∧
      ['b'].length < "é  b".toList.length ∧
      ofStage "  \tl \"a\u00a0b  " 2 = .ok ⟨["\tl", "\"a\u00a0b"]⟩ ∧
      ofStage "  \tl \"a\u00a0b  " 1 = .error (.tooManyArguments 1) := by
  have hword : (word.followed spaces) "é  b".toList = some (['é'], ['b']) := by decide +kernel
  obtain ⟨hshorter, places, -, -, -, hfound, -, htwo⟩ :=
    ofStage_lossless "  \tl \"a\u00a0b  " 2
  obtain ⟨-, places', -, -, -, hfound', -, hone⟩ := ofStage_lossless "  \tl \"a\u00a0b  " 1
  have hruns : ("  \tl \"a\u00a0b  ".toList.splitOn ' ').filter (!·.isEmpty) =
      ["\tl".toList, "\"a\u00a0b".toList] := by decide +kernel
  rw [hfound, hruns] at htwo
  rw [hfound', hruns] at hone
  exact ⟨hword, hshorter _ _ _ hword, htwo, hone⟩

end Argv
end PipeShell
