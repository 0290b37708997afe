import PipeShell.Proofs.Launch.Children
import PipeShell.Proofs.Launch.Tables

/-! # Pipelines

The launcher and the children of a pipeline as one system, whose members make their calls in any
order (`Step`). The launcher keeps its ledger and each child is on its way to the table that its
place asks for, whatever the others have done (`Kept.step`). Once the launcher waits, it holds no
end of the pipe any more and creates no further child, so who holds an end is settled when both
children are through with their calls (`ends_held`). -/

namespace PipeShell.Launch

/-- What a descriptor stands for. -/
def Table.resource (t : Table) (fd : Fd) : Option Resource := (t fd).map (·.resource)

/-- Whether this is an end of the pipe with the number `n`. -/
def Resource.IsEnd (n : Nat) (r : Resource) : Prop := r = .readEnd n ∨ r = .writeEnd n

/-! ## Wiring -/

/-- The standard descriptor that is an end of the pipe with the number `n`, and which end it is: the
first child writes to the pipe, the second one reads from it. -/
def place (n : Nat) : Nat → Fd × Resource
  | 0 => (1, .writeEnd n)
  | _ => (0, .readEnd n)

/-- What the child at this place arranges. The rest is as at the start. -/
def wired (n : Nat) (start : Table) (i : Nat) : Table :=
  start.set (place n i).1 (some { resource := (place n i).2 })

namespace Ledger

variable {l : Ledger} {plan : ChildPlan} {start : Table} {n : Nat}

/-- The two children of a pipeline. -/
theorem Wires.pipeline (h : l.Wires none plan) (hstages : l.stages = 2) :
    ∃ readEnd writeEnd, l.pipe = some (readEnd, writeEnd) ∧ l.held = [readEnd, writeEnd] ∧
      plan.unused = [readEnd, writeEnd] ∧
      (l.forks = 0 ∧ plan.stdin = none ∧ plan.stdout = some writeEnd ∨
        l.forks = 1 ∧ plan.stdin = some readEnd ∧ plan.stdout = none) := by
  unfold Wires at h
  rw [hstages] at h
  cases hpipe : l.pipe with
  | none => simp [hpipe] at h
  | some ends =>
    obtain ⟨readEnd, writeEnd⟩ := ends
    rw [hpipe] at h
    match hforks : l.forks with
    | 0 =>
      simp only [hforks] at h
      exact ⟨_, _, rfl, h.1, h.2.2.2, .inl ⟨rfl, h.2.1, h.2.2.1⟩⟩
    | 1 =>
      simp only [hforks] at h
      exact ⟨_, _, rfl, h.1, h.2.2.2, .inr ⟨rfl, h.2.1, h.2.2.1⟩⟩
    | _ + 2 => simp [hforks] at h

end Ledger

/-- Moving one end of a new pipe to a standard descriptor and closing both: all that is left of the
pipe is the standard descriptor. -/
theorem arrange_end {readEnd writeEnd source target : Fd} {start t : Table}
    {resource : Resource} (hopen : ∀ fd ≤ 2, start fd ≠ none)
    (hread : start readEnd = none) (hwrite : start writeEnd = none)
    (ht : ∀ fd, fd ≠ readEnd → fd ≠ writeEnd → t fd = start fd)
    (hsource : t source = some ⟨resource, true⟩) (htarget : target ≤ 2)
    (hend : source = readEnd ∨ source = writeEnd) :
    arrange ([.dup2 source target] ++ ([readEnd, writeEnd].filter (2 < ·)).map .close) t =
      some (start.set target (some { resource })) := by
  have habove : ∀ fd, start fd = none → 2 < fd := fun fd hfd =>
    Nat.lt_of_not_le fun hle => hopen fd hle hfd
  have hfar : ∀ fd, start fd = none → fd ≠ target := by
    rintro fd hfd rfl
    exact hopen fd htarget hfd
  have hne : source ≠ target := by
    rcases hend with rfl | rfl <;> exact hfar _ (by assumption)
  have hfilter : [readEnd, writeEnd].filter (2 < ·) = [readEnd, writeEnd] := by
    simp [habove _ hread, habove _ hwrite]
  simp only [hfilter, List.map_cons, List.map_nil, List.cons_append, List.nil_append, arrange,
    Table.dup2, hsource, if_neg hne, Option.bind_some, Option.some.injEq]
  funext fd
  simp only [Table.close, Table.set]
  by_cases hw : fd = writeEnd
  · subst hw
    simp [hfar _ hwrite, hwrite]
  by_cases hr : fd = readEnd
  · subst hr
    simp [hfar _ hread, hread]
  simp [hw, hr, ht fd hr hw]

/-- Each child of a pipeline arranges what its place asks for. -/
theorem arrange_redirections {l : Ledger} {plan : ChildPlan} {start : Table} {n : Nat}
    (hopen : ∀ fd ≤ 2, start fd ≠ none) (hsound : l.Sound start) (hstages : l.stages = 2)
    (hwires : l.Wires none plan) :
    arrange plan.redirections (l.table n start) = some (wired n start l.forks) := by
  obtain ⟨readEnd, writeEnd, hpipe, hheld, hunused, hplace⟩ := hwires.pipeline hstages
  simp only [Ledger.Sound, hpipe] at hsound
  obtain ⟨hne, hread, hwrite, -⟩ := hsound
  have ht : ∀ fd, fd ≠ readEnd → fd ≠ writeEnd → l.table n start fd = start fd := by
    intro fd hr hw
    simp [Ledger.table, hpipe, hheld, hr, hw]
  rcases hplace with ⟨hforks, hstdin, hstdout⟩ | ⟨hforks, hstdin, hstdout⟩
  · have hsource : l.table n start writeEnd = some ⟨.writeEnd n, true⟩ := by
      simp [Ledger.table, hpipe, hheld, hne.symm]
    rw [hforks, ChildPlan.redirections, hstdin, hstdout, hunused]
    exact arrange_end hopen hread hwrite ht hsource (by decide) (.inr rfl)
  · have hsource : l.table n start readEnd = some ⟨.readEnd n, true⟩ := by
      simp [Ledger.table, hpipe, hheld]
    rw [hforks, ChildPlan.redirections, hstdin, hstdout, hunused]
    exact arrange_end hopen hread hwrite ht hsource (by decide) (.inl rfl)

/-! ## The system -/

/-- A child, and which descriptors its program has closed. -/
structure Member where
  process : Process
  dropped : List Fd := []

/-- The launcher with its table, the children in the order of their creation, and what has been
written to the pipe and not yet read. -/
structure System where
  parent : Launching (Except LaunchError (List Child))
  table : Table
  children : List Member := []
  buffer : List UInt8 := []

namespace Call

/-- No pipe and no child is refused. -/
def Succeeds : Call → Prop
  | pipe (.error _) | fork _ (.error _) => False
  | _ => True

/-- The child that the call creates, with a copy of its parent's table. -/
def born (t : Table) : Call → List Member
  | fork plan (.ok _) => [{ process := .created plan t }]
  | _ => []

end Call

section
variable (n : Nat)

/-- One call of one member. The pipe that is made has the number `n`. A program can write to its
descriptors, read from them and close them, and any child can end at any time. -/
inductive Step : System → System → Prop
  | parent {s c q t} : Launching.Next s.parent c q → c.Succeeds → Effect n s.table c t →
    Step s { s with parent := q, table := t, children := s.children ++ c.born s.table }
  | child {s m} (i : Nat) (executes : Program → Bool) : s.children[i]? = some m →
    Step s { s with
      children := s.children.set i { m with process := m.process.step executes } }
  | ends {s m} (i code : Nat) : s.children[i]? = some m →
    Step s { s with children := s.children.set i { m with process := .ended code } }
  | close {s program t dropped} (i : Nat) (fd : Fd) :
    s.children[i]? = some ⟨.replaced program t, dropped⟩ →
    Step s { s with
      children := s.children.set i ⟨.replaced program (t.close fd), fd :: dropped⟩ }
  | write {s program t dropped} (i : Nat) (fd : Fd) (bytes : List UInt8) :
    s.children[i]? = some ⟨.replaced program t, dropped⟩ → t.resource fd = some (.writeEnd n) →
    Step s { s with buffer := s.buffer ++ bytes }
  | read {s program t dropped} (i : Nat) (fd : Fd) (count : Nat) :
    s.children[i]? = some ⟨.replaced program t, dropped⟩ → t.resource fd = some (.readEnd n) →
    Step s { s with buffer := s.buffer.drop count }

/-- Any number of calls, in any order. -/
inductive Reaches : System → System → Prop
  | refl {s} : Reaches s s
  | tail {s u v} : Reaches s u → Step n u v → Reaches s v

end

theorem Reaches.head {n : Nat} {s u v : System} (hstep : Step n s u) (h : Reaches n u v) :
    Reaches n s v := by
  induction h with
  | refl => exact .tail .refl hstep
  | tail _ hlast ih => exact .tail ih hlast

namespace Ledger

variable {l : Ledger} {c : Call}

theorem after_stages : (l.after c).stages = l.stages := by
  unfold after
  split <;> (try split) <;> rfl

/-- Each child that was to be created has been. -/
theorem after_forks (h : c.Succeeds) (t : Table) :
    (l.after c).forks = l.forks + (c.born t).length := by
  cases c with
  | pipe answer => rcases answer with _ | ⟨_, _⟩ <;> rfl
  | fork plan answer =>
    cases answer with
    | error e => cases h
    | ok pid => rfl
  | wait pid answer =>
    rcases answer with e | raw
    · simp only [after, Call.born]
      split <;> rfl
    · rfl
  | close fd | log record => rfl

/-- Only a pipeline that has its pipe owes a wait. -/
theorem after_owed_eq_nil (hstages : l.stages = 2) (hallows : l.Allows none c)
    (howed : l.pipe = none → l.owed = []) (h : (l.after c).pipe = none) :
    (l.after c).owed = [] := by
  cases c with
  | pipe answer =>
    rcases answer with e | ⟨_, _⟩
    · exact howed h
    · cases h
  | fork plan answer =>
    obtain ⟨_, _, hpipe, -⟩ := Wires.pipeline hallows hstages
    have hnone : l.pipe = none := by cases answer <;> exact h
    cases hpipe.symm.trans hnone
  | close fd | log record => exact howed h
  | wait pid answer =>
    have hnone : l.pipe = none := (after_of_other (c := .wait pid answer) rfl rfl).1 ▸ h
    have hhead := hallows.2.2
    rw [howed hnone] at hhead
    cases hhead

/-- The launcher is through with its pipe, and has created both children. -/
structure Through (l : Ledger) : Prop where
  pipe_ne_none : l.pipe ≠ none
  held_eq_nil : l.held = []
  forks_eq : l.forks = 2

theorem Through.after (h : l.Through) (hstages : l.stages = 2) (hallows : l.Allows none c) :
    (l.after c).Through := by
  cases c with
  | pipe answer => exact (h.pipe_ne_none hallows.2).elim
  | fork plan answer =>
    obtain ⟨_, _, -, hheld, -⟩ := Wires.pipeline hallows hstages
    cases h.held_eq_nil.symm.trans hheld
  | close fd =>
    have hhead : l.held.head? = some fd := hallows
    rw [h.held_eq_nil] at hhead
    cases hhead
  | wait pid answer =>
    by_cases hanswer : answer = .error .interrupted
    · subst hanswer
      exact h
    · rw [after_wait hanswer]
      exact ⟨h.pipe_ne_none, h.held_eq_nil, h.forks_eq⟩
  | log record => exact h

end Ledger

/-- What every call of every member keeps. -/
structure Kept (n : Nat) (start : Table) (s : System) (l : Ledger) : Prop where
  ensures : s.parent.Ensures none l fun _ _ => True
  stages_eq : l.stages = 2
  sound : l.Sound start
  table_eq : s.table = l.table n start
  length_eq : s.children.length = l.forks
  owed_eq_nil : l.pipe = none → l.owed = []
  becoming : ∀ i m, s.children[i]? = some m → Becoming (wired n start i) m.process m.dropped

namespace Kept

variable {n : Nat} {start : Table} {s s' : System} {l : Ledger}

theorem set_child {i : Nat} {m : Member} (h : Kept n start s l)
    (hm : Becoming (wired n start i) m.process m.dropped) :
    Kept n start { s with children := s.children.set i m } l := by
  refine { h with length_eq := by simp [h.length_eq], becoming := fun j m' hj => ?_ }
  rw [List.getElem?_set] at hj
  by_cases hij : i = j
  · subst hij
    split at hj
    · split at hj
      · cases hj; exact hm
      · cases hj
    · contradiction
  · exact h.becoming j m' (by simpa [hij] using hj)

/-- The launcher's next call. -/
theorem parent {c : Call} {q : Launching (Except LaunchError (List Child))} {t : Table}
    (hopen : ∀ fd ≤ 2, start fd ≠ none) (h : Kept n start s l)
    (hnext : Launching.Next s.parent c q) (hsucceeds : c.Succeeds)
    (heffect : Effect n s.table c t) :
    l.Allows none c ∧ Kept n start
      { s with parent := q, table := t, children := s.children ++ c.born s.table }
      (l.after c) := by
  obtain ⟨hallows, hensures⟩ := h.ensures.next hnext
  rw [h.table_eq] at heffect
  obtain ⟨hsound, k, htable, hk⟩ := h.sound.effect hallows heffect
  rw [hk rfl] at htable
  refine ⟨hallows, hensures, Ledger.after_stages.trans h.stages_eq, hsound, htable, ?_, ?_, ?_⟩
  · rw [List.length_append, h.length_eq, Ledger.after_forks hsucceeds s.table]
  · exact Ledger.after_owed_eq_nil h.stages_eq hallows h.owed_eq_nil
  · intro i m hi
    rcases Nat.lt_or_ge i s.children.length with hlt | hge
    · exact h.becoming i m (by rwa [List.getElem?_append_left hlt] at hi)
    rw [List.getElem?_append_right hge] at hi
    cases c with
    | fork plan answer =>
      cases answer with
      | error e => cases hsucceeds
      | ok pid =>
        -- The child that has just been created is the next one.
        have harrange := arrange_redirections (n := n) hopen h.sound h.stages_eq hallows
        simp only [Call.born, List.getElem?_singleton] at hi
        split at hi
        · obtain rfl : i = l.forks := by rw [← h.length_eq]; omega
          cases hi
          rw [h.table_eq]
          exact .created harrange
        · cases hi
    | pipe answer => rcases answer with _ | ⟨_, _⟩ <;> simp [Call.born] at hi
    | close fd | wait pid answer | log record => simp [Call.born] at hi

/-- Each call of each member. -/
theorem step (hopen : ∀ fd ≤ 2, start fd ≠ none) (h : Kept n start s l) (hstep : Step n s s') :
    ∃ l', Kept n start s' l' ∧ (l.Through → l'.Through) := by
  cases hstep with
  | parent hnext hsucceeds heffect =>
    obtain ⟨hallows, hkept⟩ := h.parent hopen hnext hsucceeds heffect
    exact ⟨_, hkept, fun hthrough => hthrough.after h.stages_eq hallows⟩
  | child i executes hm => exact ⟨l, h.set_child ((h.becoming _ _ hm).step executes), id⟩
  | ends i code hm => exact ⟨l, h.set_child .ended, id⟩
  | close i fd hm => exact ⟨l, h.set_child ((h.becoming _ _ hm).close fd), id⟩
  | write | read => exact ⟨l, { h with }, id⟩

/-- All calls, in any order. -/
theorem reaches (hopen : ∀ fd ≤ 2, start fd ≠ none) (h : Kept n start s l)
    (hrun : Reaches n s s') : ∃ l', Kept n start s' l' ∧ (l.Through → l'.Through) := by
  induction hrun with
  | refl => exact ⟨l, h, id⟩
  | tail _ hstep ih =>
    obtain ⟨l₁, hkept, hthrough₁⟩ := ih
    obtain ⟨l₂, hkept, hthrough₂⟩ := hkept.step hopen hstep
    exact ⟨l₂, hkept, hthrough₂ ∘ hthrough₁⟩

theorem initial (n : Nat) (start : Table) (left right : Argv) :
    Kept n start { parent := runPiped none left right, table := start } { stages := 2 } where
  ensures := (launch_ensures none (.piped left right)).mono fun _ _ _ => trivial
  stages_eq := rfl
  sound := rfl
  table_eq := rfl
  length_eq := rfl
  owed_eq_nil _ := rfl
  becoming _ _ := nofun

/-- A launcher that waits is through with its pipe. -/
theorem through {pid : Nat}
    {next : Except Errno UInt32 → Launching (Except LaunchError (List Child))}
    (h : Kept n start s l) (hwaits : s.parent = .wait pid next) : l.Through := by
  have hensures := h.ensures
  rw [hwaits] at hensures
  obtain ⟨hheld, hforks, hhead⟩ := hensures.1
  refine ⟨fun hpipe => ?_, hheld, hforks.trans h.stages_eq⟩
  rw [h.owed_eq_nil hpipe] at hhead
  cases hhead

end Kept

/-! ## Who holds what -/

/-- No end of the pipe with the number `n` is in the table. -/
def Table.Free (n : Nat) (t : Table) : Prop := ∀ fd r, t.resource fd = some r → ¬ r.IsEnd n

/-- The child holds one end of the pipe, under one descriptor, unless its program has closed that;
what else it holds is inherited from its parent. -/
structure Member.Confined (n : Nat) (parent : Table) (place : Fd × Resource) (m : Member) :
    Prop where
  only : ∀ fd r, m.process.table.resource fd = some r → r.IsEnd n → (fd, r) = place
  held : ∀ program t, m.process = .replaced program t → place.1 ∉ m.dropped →
    t.resource place.1 = some place.2
  inherited : ∀ program t, m.process = .replaced program t → ∀ fd ≠ place.1, fd ∉ m.dropped →
    t fd = parent.exec fd

/-- A read from the pipe finds the end of input: nothing is left in it, and nobody can write to
it. -/
def System.AtEnd (n : Nat) (s : System) : Prop :=
  s.buffer = [] ∧ ∀ t ∈ s.table :: s.children.map (·.process.table), ∀ fd,
    t.resource fd ≠ some (.writeEnd n)

/-- Each end of the pipe is held only where it belongs. -/
structure Parted (n : Nat) (s : System) (producer consumer : Member) : Prop where
  parent_free : s.table.Free n
  producer_confined : producer.Confined n s.table (1, .writeEnd n)
  consumer_confined : consumer.Confined n s.table (0, .readEnd n)
  /-- When the producer has ended and everything is read, the consumer sees the end of input. -/
  at_end : ∀ code, producer.process = .ended code → s.buffer = [] → s.AtEnd n

section
variable {n i : Nat} {start : Table} {fd : Fd} {d : Descriptor}

theorem Table.eq_some_of_exec {t : Table} (h : t.exec fd = some d) : t fd = some d :=
  (Option.filter_eq_some_iff.mp h).1

theorem wired_exec_place (n : Nat) (start : Table) (i : Nat) :
    (wired n start i).exec (place n i).1 = some { resource := (place n i).2 } := by
  simp [wired, Table.exec, Table.set]

theorem wired_exec_of_ne (h : fd ≠ (place n i).1) : (wired n start i).exec fd = start.exec fd := by
  simp [wired, Table.exec, Table.set, h]

theorem Becoming.confined {m : Member} (h : Becoming (wired n start i) m.process m.dropped)
    (hfree : start.Free n) (hstarted : m.process.isStarted) : m.Confined n start (place n i) where
  only fd r hr hend := by
    obtain ⟨d, hd, rfl⟩ := Option.map_eq_some_iff.mp hr
    have hexec := h.exec_eq hstarted hd
    by_cases hfd : fd = (place n i).1
    · subst hfd
      rw [wired_exec_place] at hexec
      cases hexec
      rfl
    · rw [wired_exec_of_ne hfd] at hexec
      have hstart : start.resource fd = some d.resource := by
        simp [Table.resource, Table.eq_some_of_exec hexec]
      exact (hfree _ _ hstart hend).elim
  held program t hprocess hdropped := by
    rw [hprocess] at h
    obtain _ | _ | _ | _ | ht | _ := h
    simp [Table.resource, ht, hdropped, wired_exec_place]
  inherited program t hprocess fd hfd hdropped := by
    rw [hprocess] at h
    obtain _ | _ | _ | _ | ht | _ := h
    rw [ht, if_neg hdropped, wired_exec_of_ne hfd]

end

/-- Whatever the order of the calls: once the launcher waits, the launcher holds no end of the pipe,
and once both children have become their programs or have ended, the producer holds at most the
write end, as its output, and the consumer at most the read end, as its input. So the consumer sees
the end of its input when the producer has ended. -/
theorem ends_held {n pid : Nat} {start : Table} {left right : Argv} {s s' : System}
    {next : Except Errno UInt32 → Launching (Except LaunchError (List Child))}
    (hopen : ∀ fd ≤ 2, start fd ≠ none) (hfree : start.Free n)
    (hrun : Reaches n { parent := runPiped none left right, table := start } s)
    (hwaits : s.parent = .wait pid next) (hlater : Reaches n s s') :
    ∃ producer consumer, s'.children = [producer, consumer] ∧
      (producer.process.isStarted → consumer.process.isStarted →
        Parted n s' producer consumer) := by
  obtain ⟨l, hkept, -⟩ := (Kept.initial n start left right).reaches hopen hrun
  obtain ⟨l', hkept', hlast⟩ := hkept.reaches hopen hlater
  have hthrough := hlast (hkept.through hwaits)
  have htable : s'.table = start := by
    rw [hkept'.table_eq, Ledger.table_of_held_eq_nil hthrough.held_eq_nil]
  have hlength : s'.children.length = 2 := hkept'.length_eq.trans hthrough.forks_eq
  obtain ⟨producer, consumer, hchildren⟩ :
      ∃ producer consumer, s'.children = [producer, consumer] := by
    match s'.children, hlength with
    | [producer, consumer], _ => exact ⟨producer, consumer, rfl⟩
  refine ⟨producer, consumer, hchildren, fun hproducer hconsumer => ?_⟩
  have hconfined₀ := (hkept'.becoming 0 producer (by rw [hchildren]; rfl)).confined hfree hproducer
  have hconfined₁ := (hkept'.becoming 1 consumer (by rw [hchildren]; rfl)).confined hfree hconsumer
  refine ⟨htable ▸ hfree, htable ▸ hconfined₀, htable ▸ hconfined₁, fun code hended hempty => ?_⟩
  refine ⟨hempty, fun t ht fd hwrite => ?_⟩
  rw [hchildren, htable] at ht
  simp only [List.map_cons, List.map_nil, List.mem_cons, List.not_mem_nil, or_false] at ht
  rcases ht with rfl | rfl | rfl
  · exact hfree _ _ hwrite (.inr rfl)
  · rw [hended] at hwrite
    cases hwrite
  · cases hconfined₁.only _ _ hwrite (.inr rfl)

/-! A run in which one byte goes through the pipe. -/

theorem reaches_ended : ∃ s next s', Reaches 0
    { parent := runPiped none ⟨["a"]⟩ ⟨["b"]⟩, table := .standard } s ∧ s.parent = .wait 7 next ∧
    Reaches 0 s s' ∧ ∃ producer consumer, s'.children = [producer, consumer] ∧
      producer.process = .ended 0 ∧ consumer.process.isStarted ∧ s'.buffer = [] :=
  ⟨_, _, _,
    .head (.parent (.pipe (.ok (3, 4))) trivial (.pipe rfl rfl (by decide))) <|
      .head (.parent (.fork (.ok 7)) trivial (.other rfl rfl)) <|
      .head (.child 0 (fun _ => true) rfl) <| .head (.parent .log trivial (.other rfl rfl)) <|
      .head (.parent (.fork (.ok 8)) trivial (.other rfl rfl)) <|
      .head (.child 1 (fun _ => true) rfl) <| .head (.parent .log trivial (.other rfl rfl)) <|
      .head (.child 0 (fun _ => true) rfl) <| .head (.parent .close trivial .close) <|
      .head (.parent .close trivial .close) .refl,
    rfl,
    .head (.child 0 (fun _ => true) rfl) <| .head (.child 0 (fun _ => true) rfl) <|
      .head (.child 0 (fun _ => true) rfl) <| .head (.write 0 1 [65] rfl rfl) <|
      .head (.child 1 (fun _ => true) rfl) <| .head (.child 1 (fun _ => true) rfl) <|
      .head (.child 1 (fun _ => true) rfl) <| .head (.child 1 (fun _ => true) rfl) <|
      .head (.ends 0 0 rfl) <| .head (.read 1 0 1 rfl rfl) .refl,
    _, _, rfl, rfl, rfl, rfl⟩

theorem ends_held_ended : ∃ s s', Reaches 0
    { parent := runPiped none ⟨["a"]⟩ ⟨["b"]⟩, table := .standard } s ∧
    (∃ next, s.parent = .wait 7 next) ∧ Reaches 0 s s' ∧
    ∃ producer consumer, s'.children = [producer, consumer] ∧ producer.process = .ended 0 ∧
      Parted 0 s' producer consumer ∧ s'.AtEnd 0 := by
  have hopen : ∀ fd ≤ 2, Table.standard fd ≠ none := by decide
  have hfree : Table.standard.Free 0 := by
    intro fd r hr
    match fd with
    | 0 | 1 | 2 => cases hr; rintro (h | h) <;> cases h
    | _ + 3 => cases hr
  obtain ⟨s, next, s', hrun, hwaits, hlater, p, c, hchildren, hended, hstarted, hempty⟩ :=
    reaches_ended
  obtain ⟨producer, consumer, hchildren', hparted⟩ := ends_held hopen hfree hrun hwaits hlater
  obtain ⟨rfl, rfl⟩ : producer = p ∧ consumer = c := by simpa [hchildren'] using hchildren
  have hparted := hparted (by rw [hended]; rfl) hstarted
  exact ⟨s, s', hrun, ⟨next, hwaits⟩, hlater, producer, consumer, hchildren', hended, hparted,
    hparted.at_end 0 hended hempty⟩

end PipeShell.Launch
