import PipeShell.Proofs.Shell.EmptyStages
import PipeShell.Proofs.Shell.Indifference
import PipeShell.Proofs.Site

/-! # Items that make no difference

A step over a site is a function of the item that it reads and of the world that it finds: what it
launches, what it writes (`speech`) and where it leaves the world (`moved`) are read off these two
(`step_follows`), and so is a whole run off the items of its queue (`steps_follow`). A blank line, an
interrupt, a line beyond the limits and a line with nothing but spaces before its first bar launch
nothing and move nothing (`Inert`). So all that such an item adds to a run is the block that its own
step writes (`steps_inert`). -/

namespace PipeShell
open Line Interaction Output
open Text (utf8)

namespace Shell

section
variable {ω : Type} (shell : Shell) (site : Site ω)

/-- Where an item leaves the world. It changes the directory or has something launched, or neither. -/
def moved (w : ω) (item : Item) : ω :=
  (shell.wanted item).toList.foldl (fun w command => (site.launch command w).2)
    ((shell.operand? item).toList.foldl (fun w target => (site.change target w).2) w)

/-- What is said of the launch that an item wants, if it fails. -/
def report (w : ω) (item : Item) : List UInt8 :=
  match shell.wanted item with
  | none => []
  | some command => match (site.launch command w).1 with
    | .error e => utf8 (launchFailed e)
    | .ok _ => []

/-- The bytes of the step that reads the item: the line above the prompt, the reply to the item, and
the report of its launch. -/
def speech (w : ω) (item : Item) : List UInt8 :=
  utf8 (directoryLine (site.current w) ++ "\n") ++
    (shell.reply (fun target => (site.change target w).1) item).flatMap utf8 ++
    shell.report site w item

/-- The bytes of the steps that read these items, one after the other. -/
def speeches : ω → List Item → List UInt8
  | _, [] => []
  | w, item :: items => shell.speech site w item ++ speeches (shell.moved site w item) items

theorem speeches_append (w : ω) (items₁ items₂ : List Item) :
    shell.speeches site w (items₁ ++ items₂) =
      shell.speeches site w items₁ ++
        shell.speeches site (items₁.foldl (shell.moved site) w) items₂ := by
  induction items₁ generalizing w with
  | nil => rfl
  | cons item items₁ ih => simp [speeches, ih]

/-- The items of a queue that a run reads: up to the first that ends it, or to the end of input. -/
def consumed : List Item → List Item
  | [] => [.atEnd]
  | item :: items => if shell.ends item then [item] else item :: consumed items

end

variable {shell : Shell} {item : Item} {command : Command} {target : String}
  {said before rest : List Exchange} {flow : Flow}

theorem consumed_of_ends {items₁ : List Item} (items₂ : List Item)
    (h : ∃ item ∈ items₁, shell.ends item = true) :
    shell.consumed (items₁ ++ items₂) = shell.consumed items₁ := by
  induction items₁ with
  | nil => simp at h
  | cons item items₁ ih =>
    cases hends : shell.ends item with
    | true => simp [consumed, hends]
    | false =>
      have hlater : ∃ item ∈ items₁, shell.ends item = true := by simpa [hends] using h
      simp [consumed, hends, ih hlater]

theorem consumed_append {items₁ : List Item} (items₂ : List Item)
    (h : ∀ item ∈ items₁, shell.ends item = false) :
    shell.consumed (items₁ ++ items₂) = items₁ ++ shell.consumed items₂ := by
  induction items₁ with
  | nil => rfl
  | cons item items₁ ih =>
    obtain ⟨hitem, hitems⟩ := List.forall_mem_cons.mp h
    simp [consumed, hitem, ih hitems]

/-! ## Steps -/

/-- A line that wants something launched does not call `cd`. -/
theorem operand?_of_wanted (h : shell.wanted item = some command) : shell.operand? item = none := by
  obtain ⟨line, rfl, -, hcalled⟩ := called_of_wanted h
  obtain ⟨hshort, hfew, hplan⟩ := called_eq_ok_iff.mp hcalled
  have hcalls := (Reading.plan_eq_launch_iff.mp hplan).1
  rw [operand?, if_pos ⟨hshort, hfew⟩]
  exact Reading.operand?_of_none (Reading.builtin?_of_callsProgram hcalls)

/-- A step asks for one change of directory or for one launch, or for neither. -/
theorem Stepping.asks_once (h : Stepping shell said flow)
    (haccepted : Unfailing Exchange.failure said) :
    (targets said).length + (launches said).length ≤ 1 := by
  obtain ⟨item, hreads, -, hlaunches, -⟩ := h.accepted haccepted
  rw [h.targets_eq hreads, hlaunches]
  cases hwanted : shell.wanted item with
  | none => cases shell.operand? item <;> simp
  | some command => simp [operand?_of_wanted hwanted]

section
variable {ω : Type} {site : Site ω} {w : ω}

/-- Up to the one thing that is asked for, the world is the one at the start. -/
theorem after_eq_self (hone : (targets said).length + (launches said).length ≤ 1) {x : Exchange}
    (hsaid : said = before ++ x :: rest) (hx : targets [x] ≠ [] ∨ launches [x] ≠ []) :
    site.after before w = w := by
  have hlater : x :: rest = [x] ++ rest := rfl
  rw [hsaid, hlater] at hone
  simp only [targets_append, launches_append, List.length_append] at hone
  have hpos : 0 < (targets [x]).length ∨ 0 < (launches [x]).length :=
    hx.imp List.length_pos_iff.mpr List.length_pos_iff.mpr
  have htargets : targets before = [] := List.length_eq_zero_iff.mp (by omega)
  have hlaunches : launches before = [] := List.length_eq_zero_iff.mp (by omega)
  rw [Site.after_of_launches hlaunches, htargets, List.foldl_nil]

end

section
variable {σ ω : Type} {partners : Surroundings σ} {queue : σ → List Item} {world : σ → ω}
  {site : Site ω} {s : σ}

/-- A launch or a change of directory is answered from the world in which the step starts. -/
theorem answer_of_mem (hsite : ActsOn partners world site) (haccepts : Accepts partners shell.step s)
    {x : Exchange} (hmem : x ∈ shell.step.transcript partners s)
    (hx : targets [x] ≠ [] ∨ launches [x] ≠ []) : site.Answer x (world s) := by
  have hone := (Stepping.of_holds (holds_transcript partners shell.step s)).asks_once haccepts
  obtain ⟨before, rest, hsaid⟩ := List.append_of_mem hmem
  have hanswer : site.Answer x (site.after before (world s)) :=
    hsite.answer_transcript shell.step s before x rest hsaid
  rwa [after_eq_self hone hsaid hx] at hanswer

/-- The directory is shown before anything else. -/
theorem Stepping.exists_found (h : Stepping shell said flow)
    (haccepted : Unfailing Exchange.failure said) : ∃ found rest, said = .currentDir found :: rest := by
  obtain ⟨shown, item, rest, rfl, hshowing, -⟩ := h.exists_responding haccepted
  cases hshowing with
  | written => exact ⟨_, _, rfl⟩

/-- What is heard of a launch is what the site says of it. -/
theorem offered_report (hsite : ActsOn partners world site) (haccepts : Accepts partners shell.step s)
    (hlaunched : launches (shell.step.transcript partners s) = (shell.wanted item).toList)
    {report : List Exchange} (hreport : Reporting report)
    (hfailed : ∀ command e, .launch command (.error e) ∈ shell.step.transcript partners s ↔
      .launch command (.error e) ∈ report) :
    offered report = shell.report site (world s) item := by
  cases hreport with
  | silent =>
    cases hwanted : shell.wanted item with
    | none => simp [Shell.report, hwanted]
    | some command =>
      have hmem : command ∈ launches (shell.step.transcript partners s) := by
        simp [hlaunched, hwanted]
      obtain ⟨x, hx, hcommand⟩ := List.mem_filterMap.mp hmem
      cases x with
      | launch command' answer =>
        obtain rfl : command' = command := Option.some.inj hcommand
        cases answer with
        | error e => cases (hfailed command' e).mp hx
        | ok children =>
          have hanswer : .ok children = (site.launch command' (world s)).1 :=
            answer_of_mem hsite haccepts hx (.inr (List.cons_ne_nil _ _))
          simp only [Shell.report, hwanted, ← hanswer]
          rfl
      | _ => cases hcommand
  | @failed command e =>
    have hx := (hfailed command e).mpr (.head _)
    have hmem : command ∈ (shell.wanted item).toList :=
      hlaunched ▸ List.mem_filterMap.mpr ⟨_, hx, rfl⟩
    have hwanted : shell.wanted item = some command := by simpa using hmem
    have hanswer : .error e = (site.launch command (world s)).1 :=
      answer_of_mem hsite haccepts hx (.inr (List.cons_ne_nil _ _))
    simp only [Shell.report, hwanted, ← hanswer]
    exact List.append_nil _

/-- All that a step does is decided by the item that it reads and by the world. -/
structure Follows (partners : Surroundings σ) (queue : σ → List Item) (world : σ → ω)
    (site : Site ω) (shell : Shell) (s : σ) (item : Item) : Prop where
  flow : (shell.step.run partners s).1 = shell.flowAfter item
  left : queue (shell.step.run partners s).2 = (queue s).tail
  launched : launches (shell.step.transcript partners s) = (shell.wanted item).toList
  reached : world (shell.step.run partners s).2 = shell.moved site (world s) item
  written : offered (shell.step.transcript partners s) = shell.speech site (world s) item

theorem step_follows (hqueue : ReadsFrom partners queue) (hsite : ActsOn partners world site)
    (haccepts : Accepts partners shell.step s) :
    Follows partners queue world site shell s ((queue s).headD .atEnd) := by
  obtain ⟨hflow, hleft, hread, -, hlaunched⟩ := step_consumes hqueue haccepts
  have hstepping := Stepping.of_holds (holds_transcript partners shell.step s)
  generalize (queue s).headD .atEnd = item at *
  refine ⟨hflow, hleft, hlaunched, ?_, ?_⟩
  · have htargets := hstepping.targets_eq hread
    rw [run_eq_after, hsite.after, moved]
    cases hwanted : shell.wanted item with
    | none =>
      rw [hwanted] at hlaunched
      rw [Site.after_of_launches hlaunched, htargets]
      rfl
    | some command =>
      rw [operand?_of_wanted hwanted] at htargets ⊢
      rw [Site.after_of_targets htargets, hlaunched, hwanted]
      rfl
  · have hanswers : Answers (fun target => (site.change target (world s)).1)
        (shell.step.transcript partners s) := fun _ _ hmem =>
      answer_of_mem hsite haccepts hmem (.inl (List.cons_ne_nil _ _))
    obtain ⟨item', hitem, found, report, hreport, hheard, hoffered⟩ :=
      hstepping.spoken haccepts hanswers
    obtain rfl : item' = item := List.cons.inj (hitem.symm.trans hread) |>.1
    have hfound : found = site.current (world s) := by
      obtain ⟨found', rest, hsaid⟩ := hstepping.exists_found haccepts
      have hanswer : found' = site.current (world s) :=
        hsite.answer_transcript shell.step s [] _ rest hsaid
      rw [hsaid] at hheard
      obtain ⟨hsame, -⟩ := List.cons.inj hheard
      rw [← hanswer]
      exact (Exchange.currentDir.inj hsame).symm
    have hreported : offered report = shell.report site (world s) item' := by
      refine offered_report hsite haccepts hlaunched hreport fun command e => ?_
      have hmem : .launch command (.error e) ∈ shell.step.transcript partners s ↔
          .launch command (.error e) ∈ audible (shell.step.transcript partners s) := by
        simp [audible, Exchange.isAudible]
      rw [hmem, hheard]
      simp [wrote]
    rw [hoffered, hfound, hreported, speech]

/-! ## Runs -/

/-- A run that has ended is decided by the items that it has read and by the world. -/
structure FollowsToEnd (partners : Surroundings σ) (world : σ → ω) (site : Site ω) (shell : Shell)
    (turns : Nat) (s : σ) (items : List Item) : Prop where
  ended : ((shell.steps turns).run partners s).1 = .exit
  launched : launches ((shell.steps turns).transcript partners s) = items.filterMap shell.wanted
  reached : world ((shell.steps turns).run partners s).2 =
    items.foldl (shell.moved site) (world s)
  written : offered ((shell.steps turns).transcript partners s) =
    shell.speeches site (world s) items

theorem FollowsToEnd.of_ends (hqueue : ReadsFrom partners queue) (hsite : ActsOn partners world site)
    {turns : Nat} (haccepts : Accepts partners (shell.steps (turns + 1)) s)
    (hitem : (queue s).headD .atEnd = item) (hends : shell.ends item = true) :
    FollowsToEnd partners world site shell (turns + 1) s [item] := by
  have hfollows := step_follows hqueue hsite (accepts_steps_succ haccepts).1
  rw [hitem] at hfollows
  have hexit : shell.step.run partners s = (.exit, (shell.step.run partners s).2) :=
    Prod.ext (by rw [hfollows.flow, flowAfter, if_pos hends]) rfl
  constructor
  all_goals first | rw [steps_run_of_exit hexit] | rw [steps_transcript_of_exit hexit]
  · rw [hfollows.launched, List.filterMap_cons]
    cases shell.wanted item <;> rfl
  · exact hfollows.reached
  · rw [hfollows.written, speeches, speeches, List.append_nil]

theorem FollowsToEnd.cons (hqueue : ReadsFrom partners queue) (hsite : ActsOn partners world site)
    {turns : Nat} {items rest : List Item}
    (haccepts : Accepts partners (shell.steps (turns + 1)) s) (hitems : queue s = item :: rest)
    (hends : shell.ends item = false)
    (h : FollowsToEnd partners world site shell turns (shell.step.run partners s).2 items) :
    FollowsToEnd partners world site shell (turns + 1) s (item :: items) := by
  have hfollows := step_follows hqueue hsite (accepts_steps_succ haccepts).1
  obtain ⟨hgoes, -, -⟩ := steps_goes_on hqueue haccepts hitems hends
  rw [hitems, List.headD_cons] at hfollows
  constructor
  all_goals first | rw [steps_run_of_continue hgoes] | rw [steps_transcript_of_continue hgoes]
  · exact h.ended
  · rw [launches_append, hfollows.launched, h.launched, List.filterMap_cons]
    cases shell.wanted item <;> rfl
  · rw [h.reached, hfollows.reached, List.foldl_cons]
  · rw [offered_append, hfollows.written, h.written, hfollows.reached, speeches]

theorem steps_follow (hqueue : ReadsFrom partners queue) (hsite : ActsOn partners world site)
    {turns : Nat} (haccepts : Accepts partners (shell.steps turns) s)
    (hturns : (queue s).findIdx shell.ends < turns) :
    FollowsToEnd partners world site shell turns s (shell.consumed (queue s)) := by
  induction turns generalizing s with
  | zero => exact (Nat.not_lt_zero _ hturns).elim
  | succ turns ih =>
    cases hitems : queue s with
    | nil => exact .of_ends hqueue hsite haccepts (by rw [hitems]; rfl) rfl
    | cons item rest =>
      rw [consumed]
      cases hends : shell.ends item with
      | true => exact .of_ends hqueue hsite haccepts (by rw [hitems]; rfl) hends
      | false =>
        obtain ⟨-, hrest, hgoes⟩ := steps_goes_on hqueue haccepts hitems hends
        rw [hitems, List.findIdx_cons, hends, cond_false, ← hrest] at hturns
        rw [← hrest]
        exact .cons hqueue hsite haccepts hitems hends (ih hgoes (Nat.lt_of_succ_lt_succ hturns))

/-- After items that do not end it, a run stands before the rest of its queue. -/
theorem steps_pass (hqueue : ReadsFrom partners queue) (hsite : ActsOn partners world site)
    {turns : Nat} {items rest : List Item} (haccepts : Accepts partners (shell.steps turns) s)
    (hitems : queue s = items ++ rest) (hgoes : ∀ item ∈ items, shell.ends item = false)
    (hturns : items.length < turns) :
    let later := ((shell.steps items.length).run partners s).2
    queue later = rest ∧ world later = items.foldl (shell.moved site) (world s) ∧
      offered ((shell.steps items.length).transcript partners s) =
        shell.speeches site (world s) items ∧
      Accepts partners shell.step later := by
  induction items generalizing s turns with
  | nil =>
    obtain ⟨turns, rfl⟩ := Nat.exists_eq_succ_of_ne_zero (Nat.ne_of_gt hturns)
    exact ⟨hitems, rfl, rfl, (accepts_steps_succ haccepts).1⟩
  | cons item items ih =>
    obtain ⟨turns, rfl⟩ := Nat.exists_eq_succ_of_ne_zero (Nat.ne_of_gt (Nat.zero_lt_of_lt hturns))
    obtain ⟨hends, hlater⟩ := List.forall_mem_cons.mp hgoes
    obtain ⟨hstep, hleft, haccepts'⟩ := steps_goes_on hqueue haccepts hitems hends
    have hfollows := step_follows hqueue hsite (accepts_steps_succ haccepts).1
    rw [hitems, List.cons_append, List.headD_cons] at hfollows
    have hpass := ih haccepts' hleft hlater (Nat.lt_of_succ_lt_succ hturns)
    rw [List.length_cons, steps_run_of_continue hstep, steps_transcript_of_continue hstep]
    obtain ⟨hqueue', hworld, hoffered, haccepted⟩ := hpass
    refine ⟨hqueue', ?_, ?_, haccepted⟩
    · rw [hworld, hfollows.reached, List.foldl_cons]
    · rw [offered_append, hfollows.written, hoffered, hfollows.reached, speeches]

end

/-! ## Items that make no difference -/

/-- An item that launches nothing and moves nothing, and what it is answered: a hint, the reason why
it is refused, or nothing. -/
inductive Inert (shell : Shell) : Item → List String → Prop
  | interrupted : Inert shell (.ok .interrupted) [interruptHint ++ "\n"]
  | blank {line} : Text.allBlank line = true → Inert shell (.ok (.line line)) []
  | refused {line reason} : Text.allBlank line = false → shell.called line = .error reason →
    Inert shell (.ok (.line line)) [refusal (.rejected reason)]
  | empty {line} : Text.allBlank line = false → shell.called line = .ok .nothing →
    (Reading.ofLine line).first = [] → Inert shell (.ok (.line line)) []

/-- A line is inert if it is blank, exceeds the limits or has nothing but spaces before its bar. -/
theorem Inert.of_line {line : String} (h : Text.allBlank line = true ∨
    shell.limits.maxLine < line.length ∨ (Reading.ofLine line).Exceeds shell.limits.maxArgs ∨
    ∀ c ∈ beforeBar line, c = ' ') : ∃ texts, shell.Inert (.ok (.line line)) texts := by
  cases hblank : Text.allBlank line with
  | true => exact ⟨_, .blank hblank⟩
  | false =>
    cases hcalled : shell.called line with
    | error reason => exact ⟨_, .refused hblank hcalled⟩
    | ok plan =>
      obtain ⟨hshort, hfew, rfl⟩ := called_eq_ok_iff.mp hcalled
      have hspaces : ∀ c ∈ beforeBar line, c = ' ' := by
        rcases h with hblank' | hlong | hmany | hspaces
        · cases hblank.symm.trans hblank'
        · exact absurd hshort (Nat.not_le.mpr hlong)
        · exact absurd hmany hfew
        · exact hspaces
      have hfirst : (Reading.ofLine line).first = [] := tokens_spaces hspaces
      rw [Reading.plan_of_first_eq_nil hfirst] at hcalled
      exact ⟨_, .empty hblank hcalled hfirst⟩

namespace Inert

variable {texts : List String} {ω : Type} {site : Site ω} {w : ω}

theorem planOf_eq (h : shell.Inert item texts) :
    shell.planOf item = none ∨ shell.planOf item = some .nothing := by
  cases h with
  | interrupted => exact .inl rfl
  | blank hblank => exact .inl (by simp [planOf, hblank])
  | refused hblank hcalled => exact .inl (by rw [planOf_line hblank, hcalled]; rfl)
  | empty hblank hcalled => exact .inr (by rw [planOf_line hblank, hcalled]; rfl)

theorem wanted_eq (h : shell.Inert item texts) : shell.wanted item = none := by
  rcases h.planOf_eq with hplan | hplan <;> rw [wanted, hplan] <;> rfl

theorem ends_eq (h : shell.Inert item texts) : shell.ends item = false := by
  have hplan : (shell.planOf item == some .exit) = false := by
    rcases h.planOf_eq with hplan | hplan <;> rw [hplan] <;> rfl
  cases h <;> exact hplan

theorem operand?_eq (h : shell.Inert item texts) : shell.operand? item = none := by
  cases h with
  | interrupted => rfl
  | blank hblank => simp [operand?, Reading.operand?_of_blank hblank]
  | refused _ hcalled =>
    refine if_neg fun hwithin => ?_
    cases (called_eq_ok_iff.mpr ⟨hwithin.1, hwithin.2, rfl⟩).symm.trans hcalled
  | empty _ hcalled hfirst => simp [operand?, Reading.operand?, hfirst]

theorem reply_eq (h : shell.Inert item texts) {answer : String → Except IoError Unit} :
    shell.reply answer item = texts := by
  cases h with
  | interrupted => rfl
  | blank hblank => simp [reply, hblank]
  | refused hblank hcalled => simp [reply, hblank, hcalled]
  | empty hblank hcalled hfirst =>
    simp [reply, hblank, hcalled, Reading.reply, Reading.builtin?, hfirst]

/-- It leaves the world where it is. -/
theorem moved_eq (h : shell.Inert item texts) : shell.moved site w item = w := by
  rw [moved, h.wanted_eq, h.operand?_eq]
  rfl

/-- All that is said in its step is the line above the prompt and the answer to it. -/
theorem speech_eq (h : shell.Inert item texts) : shell.speech site w item =
    utf8 (directoryLine (site.current w) ++ "\n") ++ texts.flatMap utf8 := by
  rw [speech, h.reply_eq, Shell.report, h.wanted_eq, List.append_nil]

/-- A run reads the same with it as without it, up to the item itself. -/
theorem consumed_eq (h : shell.Inert item texts) (before after : List Item) :
    (∃ earlier ∈ before, shell.ends earlier = true) ∧
        shell.consumed (before ++ item :: after) = shell.consumed (before ++ after) ∨
      (∀ earlier ∈ before, shell.ends earlier = false) ∧
        shell.consumed (before ++ item :: after) = before ++ item :: shell.consumed after ∧
        shell.consumed (before ++ after) = before ++ shell.consumed after := by
  by_cases hends : ∃ earlier ∈ before, shell.ends earlier = true
  · exact .inl ⟨hends, by rw [consumed_of_ends _ hends, consumed_of_ends _ hends]⟩
  · have hgoes : ∀ earlier ∈ before, shell.ends earlier = false := by simpa using hends
    refine .inr ⟨hgoes, ?_, consumed_append after hgoes⟩
    rw [consumed_append _ hgoes, consumed, h.ends_eq]
    rfl

/-- The same is wanted with it as without it. -/
theorem filterMap_wanted_consumed (h : shell.Inert item texts) (before after : List Item) :
    (shell.consumed (before ++ item :: after)).filterMap shell.wanted =
      (shell.consumed (before ++ after)).filterMap shell.wanted := by
  rcases h.consumed_eq before after with ⟨-, hsame⟩ | ⟨-, hwith, hwithout⟩
  · rw [hsame]
  · rw [hwith, hwithout, List.filterMap_append, List.filterMap_cons, h.wanted_eq,
      List.filterMap_append]

/-- The world is left where it is left without it. -/
theorem foldl_moved_consumed (h : shell.Inert item texts) (before after : List Item) :
    (shell.consumed (before ++ item :: after)).foldl (shell.moved site) w =
      (shell.consumed (before ++ after)).foldl (shell.moved site) w := by
  rcases h.consumed_eq before after with ⟨-, hsame⟩ | ⟨-, hwith, hwithout⟩
  · rw [hsame]
  · rw [hwith, hwithout, List.foldl_append, List.foldl_cons, h.moved_eq, List.foldl_append]

/-- Where it is read, its own bytes stand between those of the items before it and the rest. -/
theorem speeches_consumed (h : shell.Inert item texts) {before : List Item} (after : List Item)
    (hgoes : ∀ earlier ∈ before, shell.ends earlier = false) (site : Site ω) (w : ω) :
    let reached := before.foldl (shell.moved site) w
    let rest := shell.speeches site reached (shell.consumed after)
    shell.speeches site w (shell.consumed (before ++ item :: after)) =
        shell.speeches site w before ++ shell.speech site reached item ++ rest ∧
      shell.speeches site w (shell.consumed (before ++ after)) =
        shell.speeches site w before ++ rest := by
  intro reached rest
  rcases h.consumed_eq before after with ⟨⟨earlier, hearlier, hends⟩, -⟩ | ⟨-, hwith, hwithout⟩
  · cases (hgoes earlier hearlier).symm.trans hends
  · rw [hwith, hwithout, speeches_append, speeches_append, speeches, h.moved_eq, List.append_assoc]
    exact ⟨rfl, rfl⟩

end Inert

section
variable {σ ω : Type} {partners : Surroundings σ} {queue : σ → List Item} {world : σ → ω}
  {site : Site ω}

/-- An item that is no line to act on makes no difference. A run with a blank line, an interrupt, a
line beyond the limits or a line without a first stage launches what the run without it launches, in
the same order, and leaves the world in the same state. It writes the same bytes if an earlier item
ends the session; otherwise there is the block of the step that reads the item, at its place: the
line above the prompt and the answer to the item. -/
theorem steps_inert (hqueue : ReadsFrom partners queue) (hsite : ActsOn partners world site)
    (shell : Shell) (before after : List Item) {item : Item} {turns₁ turns₂ : Nat} (s₁ s₂ : σ)
    (hitem : item = .ok .interrupted ∨ ∃ line, item = .ok (.line line) ∧
      (Text.allBlank line = true ∨ shell.limits.maxLine < line.length ∨
        (Reading.ofLine line).Exceeds shell.limits.maxArgs ∨ ∀ c ∈ beforeBar line, c = ' '))
    (haccepts₁ : Accepts partners (shell.steps turns₁) s₁)
    (haccepts₂ : Accepts partners (shell.steps turns₂) s₂)
    (hitems₁ : queue s₁ = before ++ item :: after) (hitems₂ : queue s₂ = before ++ after)
    (hworld : world s₁ = world s₂) (hturns₁ : (queue s₁).findIdx shell.ends < turns₁)
    (hturns₂ : (queue s₂).findIdx shell.ends < turns₂) :
    let ran₁ := (shell.steps turns₁).run partners s₁
    let ran₂ := (shell.steps turns₂).run partners s₂
    let said₁ := (shell.steps turns₁).transcript partners s₁
    let said₂ := (shell.steps turns₂).transcript partners s₂
    let reached := ((shell.steps before.length).run partners s₁).2
    let told := offered ((shell.steps before.length).transcript partners s₁)
    let block := offered (shell.step.transcript partners reached)
    ran₁.1 = .exit ∧ ran₂.1 = .exit ∧ launches said₁ = launches said₂ ∧
    world ran₁.2 = world ran₂.2 ∧
    ((∃ earlier ∈ before, shell.ends earlier = true) → offered said₁ = offered said₂) ∧
    ((∀ earlier ∈ before, shell.ends earlier = false) → ∃ texts rest, shell.Inert item texts ∧
      block = utf8 (directoryLine (site.current (world reached)) ++ "\n") ++ texts.flatMap utf8 ∧
      told = offered ((shell.steps before.length).transcript partners s₂) ∧
      offered said₁ = told ++ block ++ rest ∧ offered said₂ = told ++ rest) := by
  intro ran₁ ran₂ said₁ said₂ reached told block
  obtain ⟨texts, hinert⟩ : ∃ texts, shell.Inert item texts := by
    rcases hitem with rfl | ⟨line, rfl, hline⟩
    · exact ⟨_, .interrupted⟩
    · exact Inert.of_line hline
  have h₁ := steps_follow hqueue hsite haccepts₁ hturns₁
  have h₂ := steps_follow hqueue hsite haccepts₂ hturns₂
  rw [hitems₁] at h₁
  rw [hitems₂] at h₂
  refine ⟨h₁.ended, h₂.ended, ?_, ?_, fun hends => ?_, fun hgoes => ?_⟩
  · exact h₁.launched.trans ((hinert.filterMap_wanted_consumed before after).trans h₂.launched.symm)
  · have hleft := h₁.reached.trans (hinert.foldl_moved_consumed before after)
    rw [hworld] at hleft
    exact hleft.trans h₂.reached.symm
  · refine h₁.written.trans (.trans ?_ h₂.written.symm)
    rw [consumed_of_ends _ hends, consumed_of_ends _ hends, hworld]
  · have hfar : ∀ later : List Item, before.length ≤ (before ++ later).findIdx shell.ends := by
      intro later
      rw [List.findIdx_append, if_neg (by simpa using hgoes)]
      omega
    have hlength₁ : before.length < turns₁ := Nat.lt_of_le_of_lt (hitems₁ ▸ hfar _) hturns₁
    have hlength₂ : before.length < turns₂ := Nat.lt_of_le_of_lt (hitems₂ ▸ hfar _) hturns₂
    obtain ⟨hqueue₁, hworld₁, htold₁, haccepted⟩ :=
      steps_pass hqueue hsite haccepts₁ hitems₁ hgoes hlength₁
    obtain ⟨-, -, htold₂, -⟩ := steps_pass hqueue hsite haccepts₂ hitems₂ hgoes hlength₂
    have hblock : block = shell.speech site (world reached) item := by
      have hwritten := (step_follows hqueue hsite haccepted).written
      rwa [hqueue₁, List.headD_cons] at hwritten
    obtain ⟨hwith, hwithout⟩ := hinert.speeches_consumed after hgoes site (world s₁)
    have hwritten₁ := h₁.written.trans hwith
    have hwritten₂ := (hworld ▸ h₂.written).trans hwithout
    rw [← htold₁, ← hworld₁] at hwritten₁ hwritten₂
    rw [← hblock] at hwritten₁
    exact ⟨texts, _, hinert, hblock.trans hinert.speech_eq, by rw [htold₂, ← hworld, ← htold₁],
      hwritten₁, hwritten₂⟩

end

/-- A line with too many tokens between a change of directory and a launch that fails. -/
theorem steps_inert_tooMany :
    let shell : Shell := { limits := { maxArgs := 3 } }
    let s₂ : Rehearsal.Stage :=
      { queue := [.ok (.line "cd /tmp"), .ok (.line "ls | wc"), .ok (.line "exit")],
        directory := { current := "/home", existing := ["/tmp"] },
        launcher := { failure := some (.syscall .tryAgain) } }
    let s₁ : Rehearsal.Stage :=
      { s₂ with queue := [.ok (.line "cd /tmp"), .ok (.line "a b | c d e f"), .ok (.line "ls | wc"),
          .ok (.line "exit")] }
    let said₁ := (shell.steps 4).transcript Rehearsal.Stage.partners s₁
    let said₂ := (shell.steps 3).transcript Rehearsal.Stage.partners s₂
    let told := offered ((shell.steps 1).transcript Rehearsal.Stage.partners s₁)
    launches said₁ = launches said₂ ∧ launches said₂ = [.piped ⟨["ls"]⟩ ⟨["wc"]⟩] ∧
      ((shell.steps 4).run Rehearsal.Stage.partners s₁).2.directory.current = "/tmp" ∧
      ∃ rest, offered said₁ =
          told ++ utf8 "\nDir: /tmp\nstsh: more than 3 arguments\n" ++ rest ∧
        offered said₂ = told ++ rest := by
  intro shell s₂ s₁ said₁ said₂ told
  have haccepts₁ : Accepts Rehearsal.Stage.partners (shell.steps 4) s₁ :=
    Rehearsal.Stage.accepts rfl rfl _
  have haccepts₂ : Accepts Rehearsal.Stage.partners (shell.steps 3) s₂ :=
    Rehearsal.Stage.accepts rfl rfl _
  have hmany : (Reading.ofLine "a b | c d e f").Exceeds shell.limits.maxArgs := by decide +kernel
  have hends : shell.ends (.ok (.line "cd /tmp")) = false := by decide +kernel
  obtain ⟨-, -, hlaunches, -, -, hblock⟩ :=
    steps_inert Rehearsal.Stage.readsFrom Rehearsal.Stage.actsOn shell [.ok (.line "cd /tmp")]
      [.ok (.line "ls | wc"), .ok (.line "exit")] s₁ s₂
      (.inr ⟨"a b | c d e f", rfl, .inr (.inr (.inl hmany))⟩) haccepts₁ haccepts₂ rfl rfl rfl
      (by decide +kernel) (by decide +kernel)
  obtain ⟨texts, rest, -, -, -, hwith, hwithout⟩ := hblock (List.forall_mem_singleton.mpr hends)
  have hsaid : offered (shell.step.transcript Rehearsal.Stage.partners
      ((shell.steps 1).run Rehearsal.Stage.partners s₁).2) =
      utf8 "\nDir: /tmp\nstsh: more than 3 arguments\n" := by decide +kernel
  exact ⟨hlaunches, by decide +kernel, by decide +kernel, rest, hsaid ▸ hwith, hwithout⟩

end Shell
end PipeShell
