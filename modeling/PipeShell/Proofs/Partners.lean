import PipeShell.Proofs.Output.Delivery

/-! # Partners in a run

What the partners contribute to a run. Each question is answered from the state that the earlier
ones have left (`turns`), so the state at any point is determined by what has been said so far
(`run_eq_after`). A line source that holds a queue gives out its items from the front, and reads as
the end of input once it is empty (`ReadsFrom.reads_transcript`). A directory that only a change of
directory touches is the fold of the changes that were asked for (`HoldsDirectory.after`). An output
accepts a conversation if it refuses nothing that is said to it (`Accepts`). -/

namespace PipeShell

/-- What a read brings. -/
abbrev Item := Except ReadError Input

namespace Exchange

/-- The item that was read. -/
def item? : Exchange → Option Item
  | readLine _ answer => some answer
  | _ => none

/-- The command that was launched. -/
def command? : Exchange → Option Command
  | launch command _ => some command
  | _ => none

/-- The directory that was asked for, whether it could be entered or not. -/
def target? : Exchange → Option String
  | changeDir target _ => some target
  | _ => none

/-- Whether an item was read or a command launched. -/
def asks (x : Exchange) : Bool := x.item?.isSome || x.command?.isSome

theorem moves_eq_false {x : Exchange} (h : x.target? = none) : x.moves = false := by
  cases x with
  | changeDir => cases h
  | _ => rfl

end Exchange

/-- The items that were read, in order. -/
def reads (trace : List Exchange) : List Item := trace.filterMap Exchange.item?

/-- The commands that were launched, in order, whatever became of them. -/
def launches (trace : List Exchange) : List Command := trace.filterMap Exchange.command?

/-- The directories that were asked for, in order. -/
def targets (trace : List Exchange) : List String := trace.filterMap Exchange.target?

@[simp] theorem reads_append {trace₁ trace₂ : List Exchange} :
    reads (trace₁ ++ trace₂) = reads trace₁ ++ reads trace₂ := List.filterMap_append

@[simp] theorem launches_append {trace₁ trace₂ : List Exchange} :
    launches (trace₁ ++ trace₂) = launches trace₁ ++ launches trace₂ := List.filterMap_append

@[simp] theorem targets_append {trace₁ trace₂ : List Exchange} :
    targets (trace₁ ++ trace₂) = targets trace₁ ++ targets trace₂ := List.filterMap_append

/-- Nothing is read and nothing is launched. -/
def Silent (trace : List Exchange) : Prop := ∀ x ∈ trace, x.asks = false

@[simp] theorem silent_nil : Silent [] := List.forall_mem_nil _

@[simp] theorem silent_cons {x : Exchange} {trace : List Exchange} :
    Silent (x :: trace) ↔ x.asks = false ∧ Silent trace := List.forall_mem_cons

@[simp] theorem silent_append {trace₁ trace₂ : List Exchange} :
    Silent (trace₁ ++ trace₂) ↔ Silent trace₁ ∧ Silent trace₂ := List.forall_mem_append

theorem Silent.reads_eq_nil {trace : List Exchange} (h : Silent trace) : reads trace = [] := by
  refine List.filterMap_eq_nil_iff.mpr fun x hx => ?_
  have hx := h x hx
  simp only [Exchange.asks, Bool.or_eq_false_iff, Option.isSome_eq_false_iff,
    Option.isNone_iff_eq_none] at hx
  exact hx.1

theorem Silent.launches_eq_nil {trace : List Exchange} (h : Silent trace) :
    launches trace = [] := by
  refine List.filterMap_eq_nil_iff.mpr fun x hx => ?_
  have hx := h x hx
  simp only [Exchange.asks, Bool.or_eq_false_iff, Option.isSome_eq_false_iff,
    Option.isNone_iff_eq_none] at hx
  exact hx.2

/-! ## Places -/

/-- A condition on each exchange and on what was said before it. -/
def AtEach (P : List Exchange → Exchange → Prop) (trace : List Exchange) : Prop :=
  ∀ before x rest, trace = before ++ x :: rest → P before x

namespace AtEach

variable {P : List Exchange → Exchange → Prop} {trace₁ trace₂ : List Exchange} {x : Exchange}

theorem nil : AtEach P [] := by
  intro before x rest h
  simp at h

theorem cons (hx : P [] x) (h : AtEach (fun before => P (x :: before)) trace₁) :
    AtEach P (x :: trace₁) := by
  intro before y rest heq
  cases before with
  | nil =>
    obtain ⟨rfl, -⟩ := List.cons.inj heq
    exact hx
  | cons z before =>
    obtain ⟨rfl, hrest⟩ := List.cons.inj heq
    exact h before y rest hrest

theorem append (h₁ : AtEach P trace₁) (h₂ : AtEach (fun before => P (trace₁ ++ before)) trace₂) :
    AtEach P (trace₁ ++ trace₂) := by
  induction trace₁ generalizing P with
  | nil => exact h₂
  | cons x trace₁ ih =>
    refine .cons (h₁ [] x trace₁ rfl) (ih (fun before y rest heq => ?_) h₂)
    exact h₁ (x :: before) y rest (congrArg (x :: ·) heq)

theorem imp {Q : List Exchange → Exchange → Prop} (h : AtEach P trace₁)
    (hPQ : ∀ before x, P before x → Q before x) : AtEach Q trace₁ :=
  fun before x rest heq => hPQ before x (h before x rest heq)

theorem of_forall_mem (h : ∀ x ∈ trace₁, ∀ before, P before x) : AtEach P trace₁ := by
  rintro before x rest rfl
  exact h x (by simp) before

end AtEach

/-! ## States -/

namespace Surroundings

variable {σ : Type} (partners : Surroundings σ)

/-- The state in which a question leaves the partners. -/
def react : Exchange → σ → σ
  | .write text _, s => (partners.write text s).2
  | .flush _, s => (partners.flush s).2
  | .readLine prompt _, s => (partners.readLine prompt s).2
  | .saveHistory, s => partners.saveHistory s
  | .currentDir _, s => (partners.currentDir s).2
  | .changeDir target _, s => (partners.changeDir target s).2
  | .launch command _, s => (partners.launch command s).2
  | .interrupts _, s => (partners.interrupts s).2
  | .log record, s => partners.log record s

/-- The partners answer like this. -/
def Answer : Exchange → σ → Prop
  | .write text answer, s => answer = (partners.write text s).1
  | .flush answer, s => answer = (partners.flush s).1
  | .readLine prompt answer, s => answer = (partners.readLine prompt s).1
  | .currentDir answer, s => answer = (partners.currentDir s).1
  | .changeDir target answer, s => answer = (partners.changeDir target s).1
  | .launch command answer, s => answer = (partners.launch command s).1
  | .interrupts count, s => count = (partners.interrupts s).1
  | .saveHistory, _ | .log _, _ => True

/-- The state in which these exchanges leave the partners. -/
def after (trace : List Exchange) (s : σ) : σ := trace.foldl (fun s x => partners.react x s) s

@[simp] theorem after_nil (s : σ) : partners.after [] s = s := rfl

@[simp] theorem after_cons (x : Exchange) (trace : List Exchange) (s : σ) :
    partners.after (x :: trace) s = partners.after trace (partners.react x s) := rfl

end Surroundings

namespace Interaction

variable {α σ : Type} (partners : Surroundings σ)

/-- A conversation has ended, or the partners answer its next question and it goes on from there. -/
theorem turns (p : Interaction α) (s : σ) :
    (∃ value, p = done value) ∨ ∃ x q, Turn p x q ∧ partners.Answer x s ∧
      p.transcript partners s = x :: q.transcript partners (partners.react x s) ∧
      p.run partners s = q.run partners (partners.react x s) := by
  cases p with
  | done value => exact .inl ⟨value, rfl⟩
  | _ =>
    refine .inr ⟨_, _, by constructor, ?_, rfl, rfl⟩
    first | exact rfl | trivial

/-- The partners are left as their transcript says. -/
theorem run_eq_after (p : Interaction α) (s : σ) :
    (p.run partners s).2 = partners.after (p.transcript partners s) s := by
  induction htrace : p.transcript partners s generalizing p s with
  | nil =>
    rcases turns partners p s with ⟨value, rfl⟩ | ⟨x, q, -, -, h, -⟩
    · rfl
    · cases htrace.symm.trans h
  | cons x trace ih =>
    rcases turns partners p s with ⟨value, rfl⟩ | ⟨x', q, -, -, h, hrun⟩
    · cases htrace
    · obtain ⟨rfl, hrest⟩ := List.cons.inj (h.symm.trans htrace)
      rw [hrun, Surroundings.after_cons, ih q _ hrest]

/-- Each question is answered from the state that the exchanges before it have left. -/
theorem answer_transcript (p : Interaction α) (s : σ) :
    AtEach (fun before x => partners.Answer x (partners.after before s))
      (p.transcript partners s) := by
  induction htrace : p.transcript partners s generalizing p s with
  | nil => exact .nil
  | cons x trace ih =>
    rcases turns partners p s with ⟨value, rfl⟩ | ⟨x', q, -, hanswer, h, -⟩
    · cases htrace
    · obtain ⟨rfl, hrest⟩ := List.cons.inj (h.symm.trans htrace)
      exact .cons hanswer (ih q _ hrest)

end Interaction

/-! ## A queue of items -/

/-- The end of input. -/
abbrev Item.atEnd : Item := .ok .endOfInput

/-- The first items that a queue gives out. Beyond its end there is the end of input. -/
def served : List Item → Nat → List Item
  | _, 0 => []
  | queue, n + 1 => queue.headD .atEnd :: served queue.tail n

/-- The line source takes its items from the front of a queue that nothing else touches. -/
structure ReadsFrom {σ : Type} (partners : Surroundings σ) (queue : σ → List Item) : Prop where
  answer : ∀ prompt s, (partners.readLine prompt s).1 = (queue s).headD .atEnd
  taken : ∀ prompt s, queue (partners.readLine prompt s).2 = (queue s).tail
  keeps : ∀ x, x.item? = none → ∀ s, queue (partners.react x s) = queue s

namespace ReadsFrom
open Interaction

variable {α σ : Type} {partners : Surroundings σ} {queue : σ → List Item}

/-- Each read takes one item off the queue. -/
theorem queue_after (hqueue : ReadsFrom partners queue) (trace : List Exchange) (s : σ) :
    queue (partners.after trace s) = (queue s).drop (reads trace).length := by
  induction trace generalizing s with
  | nil => rfl
  | cons x trace ih =>
    rw [Surroundings.after_cons, ih]
    cases hx : x.item? with
    | none => simp [reads, hx, hqueue.keeps x hx]
    | some item =>
      cases x with
      | readLine prompt answer =>
        simp [reads, Exchange.item?, Surroundings.react, hqueue.taken]
      | _ => cases hx

/-- What is read are the items of the queue, in their order. -/
theorem reads_transcript (hqueue : ReadsFrom partners queue) (p : Interaction α) (s : σ) :
    reads (p.transcript partners s) =
      served (queue s) (reads (p.transcript partners s)).length := by
  induction htrace : p.transcript partners s generalizing p s with
  | nil => rfl
  | cons x trace ih =>
    rcases turns partners p s with ⟨value, rfl⟩ | ⟨x', q, -, hanswer, h, -⟩
    · cases htrace
    obtain ⟨rfl, hrest⟩ := List.cons.inj (h.symm.trans htrace)
    have hreads := ih q _ hrest
    cases hx : x'.item? with
    | none =>
      rw [hqueue.keeps x' hx] at hreads
      simpa [reads, hx] using hreads
    | some item =>
      cases x' with
      | readLine prompt answer =>
        have hfirst : answer = (queue s).headD .atEnd := hanswer.trans (hqueue.answer prompt s)
        rw [Surroundings.react, hqueue.taken] at hreads
        simpa [reads, Exchange.item?, served, hfirst] using hreads
      | _ => cases hx

end ReadsFrom

/-! ## A directory -/

/-- Only a change of directory touches the directory. How it goes depends on the directory it is
made from, and on the world at that time: a program may have made the directory that is entered, or
removed it. -/
structure HoldsDirectory {σ ω δ : Type} (partners : Surroundings σ) (world : σ → ω)
    (directory : σ → δ) (change : ω → String → δ → Except IoError Unit × δ) : Prop where
  changed : ∀ target s, ((partners.changeDir target s).1,
    directory (partners.changeDir target s).2) = change (world s) target (directory s)
  keeps : ∀ x, x.target? = none → ∀ s, directory (partners.react x s) = directory s

/-- The changes of directory that these exchanges ask for, each with the world it is made in. -/
def Surroundings.changes {σ ω : Type} (partners : Surroundings σ) (world : σ → ω) :
    List Exchange → σ → List (ω × String)
  | [], _ => []
  | x :: trace, s =>
    (x.target?.map (world s, ·)).toList ++ partners.changes world trace (partners.react x s)

section
variable {σ ω δ : Type} {partners : Surroundings σ} {world : σ → ω} {directory : σ → δ}
  {change : ω → String → δ → Except IoError Unit × δ}

theorem Surroundings.targets_changes (world : σ → ω) (trace : List Exchange) (s : σ) :
    (partners.changes world trace s).map Prod.snd = targets trace := by
  induction trace generalizing s with
  | nil => rfl
  | cons x trace ih =>
    have hrest := ih (partners.react x s)
    cases hx : x.target? <;> simpa [changes, targets, hx] using hrest

namespace HoldsDirectory

/-- The directory is the fold of all changes from the first one on. -/
theorem after (h : HoldsDirectory partners world directory change)
    (trace : List Exchange) (s : σ) :
    directory (partners.after trace s) =
      (partners.changes world trace s).foldl (fun d c => (change c.1 c.2 d).2) (directory s) := by
  induction trace generalizing s with
  | nil => rfl
  | cons x trace ih =>
    rw [Surroundings.after_cons, ih]
    cases hx : x.target? with
    | none => simp [Surroundings.changes, hx, h.keeps x hx]
    | some target =>
      cases x with
      | changeDir target answer =>
        have hchanged := congrArg Prod.snd (h.changed target s)
        simp [Surroundings.changes, Exchange.target?, Surroundings.react, ← hchanged]
      | _ => cases hx

/-- Where the world makes no difference, the directory is determined by what was asked for. -/
theorem after_eq_foldl {change : String → δ → Except IoError Unit × δ}
    (h : HoldsDirectory partners world directory fun _ => change) (trace : List Exchange) (s : σ) :
    directory (partners.after trace s) =
      (targets trace).foldl (fun d target => (change target d).2) (directory s) := by
  rw [h.after, ← Surroundings.targets_changes world trace s, List.foldl_map]

/-- A view of the directory that changes by itself is held as well. -/
theorem map {γ : Type} (h : HoldsDirectory partners world directory change) (view : δ → γ)
    {change' : ω → String → γ → Except IoError Unit × γ}
    (hview : ∀ w target d,
      change' w target (view d) = ((change w target d).1, view (change w target d).2)) :
    HoldsDirectory partners world (fun s => view (directory s)) change' where
  changed target s := by rw [hview, ← h.changed]
  keeps x hx s := congrArg view (h.keeps x hx s)

/-- Where no change is asked for, the directory stays. -/
theorem stays (h : HoldsDirectory partners world directory change) {trace : List Exchange}
    (htrace : targets trace = []) (s : σ) :
    directory (partners.after trace s) = directory s := by
  have hnone : partners.changes world trace s = [] := by
    rw [← List.map_eq_nil_iff, Surroundings.targets_changes, htrace]
  rw [h.after, hnone, List.foldl_nil]

/-- The first change that is asked for is made from the first directory. -/
theorem answer_eq {α : Type} (h : HoldsDirectory partners world directory change)
    {p : Interaction α} {s : σ} {before rest : List Exchange} {target : String}
    {answer : Except IoError Unit}
    (hsaid : p.transcript partners s = before ++ .changeDir target answer :: rest)
    (hbefore : targets before = []) :
    answer = (change (world (partners.after before s)) target (directory s)).1 := by
  have hanswer : answer = (partners.changeDir target (partners.after before s)).1 :=
    Interaction.answer_transcript partners p s _ _ _ hsaid
  rw [hanswer, ← h.stays hbefore s]
  exact congrArg Prod.fst (h.changed target _)

end HoldsDirectory

end

/-! ## An output that accepts -/

section
open Interaction

variable {α σ : Type}

/-- The output refuses nothing of what the conversation says to it. -/
def Accepts (partners : Surroundings σ) (p : Interaction α) (s : σ) : Prop :=
  Unfailing Exchange.failure (p.transcript partners s)

/-- A sequence is accepted if its first part is, and then the rest. -/
theorem accepts_bind {β : Type} {partners : Surroundings σ} {p : Interaction α}
    {f : α → Interaction β} {s : σ} :
    Accepts partners (p >>= f) s ↔
      Accepts partners p s ∧ Accepts partners (f (p.run partners s).1) (p.run partners s).2 := by
  rw [Accepts, transcript_bind, unfailing_append]
  rfl

/-- What holds of each exchange in a ready state holds throughout, if the state stays ready. -/
theorem forall_mem_transcript {partners : Surroundings σ} (Ready : σ → Prop) {P : Exchange → Prop}
    (hkept : ∀ x s, Ready s → Ready (partners.react x s))
    (hsaid : ∀ x s, Ready s → partners.Answer x s → P x) (p : Interaction α) {s : σ} (h : Ready s) :
    ∀ x ∈ p.transcript partners s, P x := by
  induction htrace : p.transcript partners s generalizing p s with
  | nil => exact List.forall_mem_nil _
  | cons x trace ih =>
    rcases turns partners p s with ⟨value, rfl⟩ | ⟨x', q, -, hanswer, hturn, -⟩
    · cases htrace
    obtain ⟨rfl, hrest⟩ := List.cons.inj (hturn.symm.trans htrace)
    exact List.forall_mem_cons.mpr ⟨hsaid x' s h hanswer, ih q (hkept x' s h) hrest⟩

end

end PipeShell
