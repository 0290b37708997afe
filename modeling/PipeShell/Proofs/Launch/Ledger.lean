import PipeShell.Proofs.Launch.Calls

/-! # The launcher's ledger

A ledger says what the launcher has open: the ends of its pipe that it still holds and the children
that it has not yet waited for. Each call must be in order (`Ledger.Allows`): an end that is closed
is the next one held, a child that is waited for is the next one owed, no end is held while waiting,
and a child is created with the ends that its place in the command asks for.

`Ensures` checks this along all answers, and each function of the launcher has one lemma that says
what it needs and what it leaves. From `launch_ensures` all calls of all launches are in order
(`Audit`), up to the end, where nothing is held and nothing is owed, and a failure has its reason in
a system call or in one of the vectors (`Outcome`). -/

namespace PipeShell.Launch

/-- What the launcher has open. Both lists are in the order of opening. -/
structure Ledger where
  /-- How many children the command asks for. -/
  stages : Nat
  /-- The pipe that was made, the read end first. -/
  pipe : Option (Fd × Fd) := none
  held : List Fd := []
  /-- How many children were to be created, whether or not they could be. -/
  forks : Nat := 0
  owed : List Nat := []

namespace Ledger

variable {output : Option Fd} {l l' : Ledger} {c : Call} {calls calls₁ calls₂ : List Call}

/-- What the next child is given: its streams, and the ends that it is to close. -/
def Wires (output : Option Fd) (l : Ledger) (plan : ChildPlan) : Prop :=
  match l.stages, l.pipe, l.forks with
  | 1, none, 0 => plan.stdin = none ∧ plan.stdout = output ∧ plan.unused = []
  | 2, some (readEnd, writeEnd), 0 => l.held = [readEnd, writeEnd] ∧ plan.stdin = none ∧
    plan.stdout = some writeEnd ∧ plan.unused = [readEnd, writeEnd]
  | 2, some (readEnd, writeEnd), 1 => l.held = [readEnd, writeEnd] ∧ plan.stdin = some readEnd ∧
    plan.stdout = output ∧ plan.unused = [readEnd, writeEnd]
  | _, _, _ => False

/-- Whether the launcher may wait for this child. -/
def Awaits (l : Ledger) (pid : Nat) : Prop :=
  l.held = [] ∧ l.forks = l.stages ∧ l.owed.head? = some pid

/-- Whether the call is in order. -/
def Allows (output : Option Fd) (l : Ledger) : Call → Prop
  | .pipe _ => l.stages = 2 ∧ l.pipe = none
  | .fork plan _ => l.Wires output plan
  | .close fd => l.held.head? = some fd
  | .wait pid _ => l.Awaits pid
  | .log _ => True

/-- What is open after the call. -/
def after (l : Ledger) : Call → Ledger
  | .pipe (.ok (readEnd, writeEnd)) =>
    { l with pipe := some (readEnd, writeEnd), held := l.held ++ [readEnd, writeEnd] }
  | .fork _ (.ok pid) => { l with forks := l.forks + 1, owed := l.owed ++ [pid] }
  | .fork _ (.error _) => { l with forks := l.forks + 1 }
  | .close _ => { l with held := l.held.tail }
  | .wait _ (.error e) => if e = .interrupted then l else { l with owed := l.owed.tail }
  | .wait _ (.ok _) => { l with owed := l.owed.tail }
  | _ => l

theorem after_interrupted {pid : Nat} : l.after (.wait pid (.error .interrupted)) = l := rfl

theorem after_wait {pid : Nat} {answer : Except Errno UInt32}
    (h : answer ≠ .error .interrupted) :
    l.after (.wait pid answer) = { l with owed := l.owed.tail } := by
  cases answer with
  | ok raw => rfl
  | error e =>
    have he : e ≠ .interrupted := by rintro rfl; exact h rfl
    simp [after, he]

end Ledger

/-- All calls are in order. -/
inductive Audit (output : Option Fd) : Ledger → List Call → Ledger → Prop
  | nil {l} : Audit output l [] l
  | cons {l c calls l'} : l.Allows output c → Audit output (l.after c) calls l' →
    Audit output l (c :: calls) l'

namespace Launching

variable {α β : Type} {output : Option Fd} {l : Ledger} {p q : Launching α} {c : Call}
  {calls : List Call} {Q : α → Ledger → Prop}

/-- Whatever the answers, each call is in order, and the end satisfies `Q`. -/
def Ensures (output : Option Fd) : Launching α → Ledger → (α → Ledger → Prop) → Prop
  | done value, l, Q => Q value l
  | pipe next, l, Q => (l.stages = 2 ∧ l.pipe = none) ∧
    ∀ answer, (next answer).Ensures output (l.after (.pipe answer)) Q
  | fork plan next, l, Q => l.Wires output plan ∧
    ∀ answer, (next answer).Ensures output (l.after (.fork plan answer)) Q
  | close fd next, l, Q => l.held.head? = some fd ∧ next.Ensures output (l.after (.close fd)) Q
  | wait pid next, l, Q => l.Awaits pid ∧
    ∀ answer, (next answer).Ensures output { l with owed := l.owed.tail } Q
  | log _ next, l, Q => next.Ensures output l Q

namespace Ensures

theorem bind {f : α → Launching β} {Q : β → Ledger → Prop}
    (h : p.Ensures output l fun a l => (f a).Ensures output l Q) :
    (p >>= f).Ensures output l Q := by
  change (p.bind f).Ensures output l Q
  induction p generalizing l with
  | done value => exact h
  | pipe next ih => exact ⟨h.1, fun answer => ih answer (h.2 answer)⟩
  | fork plan next ih => exact ⟨h.1, fun answer => ih answer (h.2 answer)⟩
  | close fd next ih => exact ⟨h.1, ih h.2⟩
  | wait pid next ih => exact ⟨h.1, fun answer => ih answer (h.2 answer)⟩
  | log record next ih => exact ih h

theorem mono {Q' : α → Ledger → Prop} (h : p.Ensures output l Q) (hQ : ∀ a l, Q a l → Q' a l) :
    p.Ensures output l Q' := by
  induction p generalizing l with
  | done value => exact hQ _ _ h
  | pipe next ih => exact ⟨h.1, fun answer => ih answer (h.2 answer)⟩
  | fork plan next ih => exact ⟨h.1, fun answer => ih answer (h.2 answer)⟩
  | close fd next ih => exact ⟨h.1, ih h.2⟩
  | wait pid next ih => exact ⟨h.1, fun answer => ih answer (h.2 answer)⟩
  | log record next ih => exact ih h

/-- The next call is in order, and so is the rest. -/
theorem next (h : p.Ensures output l Q) (hnext : Next p c q) :
    l.Allows output c ∧ q.Ensures output (l.after c) Q := by
  cases hnext with
  | pipe answer | fork answer => exact ⟨h.1, h.2 answer⟩
  | close => exact h
  | interrupted => exact ⟨h.1, h⟩
  | wait answer hanswer =>
    rw [Ledger.after_wait hanswer]
    exact ⟨h.1, h.2 answer⟩
  | log => exact ⟨trivial, h⟩

theorem makes (h : p.Ensures output l Q) (hmakes : p.Makes calls q) :
    ∃ l', Audit output l calls l' ∧ q.Ensures output l' Q := by
  induction hmakes generalizing l with
  | refl => exact ⟨l, .nil, h⟩
  | step hnext _ ih =>
    obtain ⟨hallows, hrest⟩ := h.next hnext
    obtain ⟨l', haudit, hend⟩ := ih hrest
    exact ⟨l', .cons hallows haudit, hend⟩

end Ensures
end Launching

/-! ## The functions of the launcher -/

/-- What a launch of these vectors can come back with: children, the number of a system call that
has failed, or the reason why one of the vectors is no program. -/
inductive Outcome (argvs : List Argv) : Except LaunchError (List Child) → Prop
  | ended {children} : Outcome argvs (.ok children)
  | failed {errno} : Outcome argvs (.error (.syscall errno))
  | refused {argv e} : argv ∈ argvs → Program.ofArgv argv = .error e → Outcome argvs (.error e)

section
open Launching

variable {α : Type} {output : Option Fd} {l : Ledger}

theorem spawn_ensures {plan : ChildPlan} {Q : Except LaunchError Child → Ledger → Prop}
    (hwires : l.Wires output plan)
    (hfails : ∀ errno, Q (.error (.syscall errno)) { l with forks := l.forks + 1 })
    (hstarts : ∀ pid, Q (.ok ⟨pid, none⟩)
      { l with forks := l.forks + 1, owed := l.owed ++ [pid] }) :
    (spawn plan).Ensures output l Q := by
  refine ⟨hwires, fun answer => ?_⟩
  cases answer with
  | error e => exact hfails _
  | ok pid => exact hstarts pid

theorem reap_ensures {child : Child} {owed : List Nat}
    {Q : Except LaunchError Child → Ledger → Prop} (hheld : l.held = [])
    (hforks : l.forks = l.stages) (howed : l.owed = child.pid :: owed)
    (hfails : ∀ errno, Q (.error (.syscall errno)) { l with owed })
    (hends : ∀ status, Q (.ok { child with status := some status }) { l with owed }) :
    (reap child).Ensures output l Q := by
  refine ⟨⟨hheld, hforks, by rw [howed]; rfl⟩, fun answer => ?_⟩
  rw [howed]
  cases answer with
  | error errno => exact hfails errno
  | ok raw => exact hends _

theorem abandon_ensures {child : Child} {Q : Unit → Ledger → Prop} (hheld : l.held = [])
    (hforks : l.forks = l.stages) (howed : l.owed = [child.pid]) (hQ : Q () { l with owed := [] }) :
    (abandon child).Ensures output l Q :=
  .bind (reap_ensures hheld hforks howed (fun _ => hQ) fun _ => hQ)

theorem reapBoth_ensures {producer consumer : Child}
    {Q : Except LaunchError (List Child) → Ledger → Prop} (hheld : l.held = [])
    (hforks : l.forks = l.stages) (howed : l.owed = [producer.pid, consumer.pid])
    (hfails : ∀ errno, Q (.error (.syscall errno)) { l with owed := [] })
    (hends : ∀ children, Q (.ok children) { l with owed := [] }) :
    (reapBoth producer consumer).Ensures output l Q := by
  -- The second wait is made whatever became of the first.
  refine .bind (reap_ensures hheld hforks howed (fun errno => .bind ?_) fun status => .bind ?_)
  · exact reap_ensures hheld hforks rfl (fun _ => hfails errno) fun _ => hfails errno
  · exact reap_ensures hheld hforks rfl hfails fun _ => hends _

theorem runSingle_ensures {argv : Argv} {Q : Except LaunchError (List Child) → Ledger → Prop}
    (hstages : l.stages = 1) (hpipe : l.pipe = none) (hforks : l.forks = 0) (hheld : l.held = [])
    (howed : l.owed = [])
    (hQ : ∀ result (l : Ledger), Outcome [argv] result → l.held = [] → l.owed = [] → Q result l) :
    (runSingle output argv).Ensures output l Q := by
  unfold runSingle
  cases hargv : Program.ofArgv argv with
  | error e => exact hQ _ _ (.refused (.head _) hargv) hheld howed
  | ok program =>
    have hwires : l.Wires output { program, stdout := output } := by simp [Ledger.Wires, *]
    refine .bind (spawn_ensures hwires (fun _ => hQ _ _ .failed hheld howed) fun pid => .bind ?_)
    exact reap_ensures hheld (by rw [hstages, hforks]) (by rw [howed]; rfl)
      (fun _ => hQ _ _ .failed hheld rfl) fun _ => hQ _ _ .ended hheld rfl

theorem close_ensures {pipe : Pipe} {Q : Pipe → Ledger → Prop}
    (hopen : pipe.read.toList ++ pipe.write.toList = l.held)
    (hQ : Q ⟨none, none⟩ { l with held := [] }) : pipe.close.Ensures output l Q := by
  have hclose : ∀ (fds : List Fd) (l : Ledger), l.held = fds →
      Q ⟨none, none⟩ { l with held := [] } → Ensures output (do
        for fd in fds do
          Launching.close fd (.done ())
        return ⟨none, none⟩) l Q := by
    intro fds
    induction fds with
    | nil =>
      intro l hheld hQ
      rw [← hheld] at hQ
      exact hQ
    | cons fd fds ih =>
      intro l hheld hQ
      rw [List.forIn_cons]
      refine ⟨by rw [hheld]; rfl, ?_⟩
      exact ih _ (by simp [Ledger.after, hheld]) hQ
  exact hclose _ l hopen.symm hQ

theorem within_ensures {use : Fd → Fd → Pipe → Launching (Pipe × Except LaunchError α)}
    {Q : Except LaunchError α → Ledger → Prop} (hstages : l.stages = 2) (hpipe : l.pipe = none)
    (hheld : l.held = []) (hfails : ∀ errno, Q (.error (.syscall errno)) l)
    (huse : ∀ readEnd writeEnd, (use readEnd writeEnd ⟨some readEnd, some writeEnd⟩).Ensures output
      { l with pipe := some (readEnd, writeEnd), held := [readEnd, writeEnd] } fun result l =>
        result.1.read.toList ++ result.1.write.toList = l.held ∧
          Q result.2 { l with held := [] }) :
    (Pipe.within use).Ensures output l Q := by
  refine ⟨⟨hstages, hpipe⟩, fun answer => ?_⟩
  rcases answer with e | ⟨readEnd, writeEnd⟩
  · exact hfails _
  · have hafter : l.after (.pipe (.ok (readEnd, writeEnd))) =
        { l with pipe := some (readEnd, writeEnd), held := [readEnd, writeEnd] } := by
      simp [Ledger.after, hheld]
    rw [hafter]
    refine .bind ((huse readEnd writeEnd).mono fun result l hleft => ?_)
    exact .bind (close_ensures hleft.1 hleft.2)

theorem runStages_ensures {left right : Program} {readEnd writeEnd : Fd}
    {Q : Except LaunchError (List Child) → Ledger → Prop}
    (hstages : l.stages = 2) (hpipe : l.pipe = some (readEnd, writeEnd)) (hforks : l.forks = 0)
    (hheld : l.held = [readEnd, writeEnd]) (howed : l.owed = [])
    (hfails : ∀ errno (l : Ledger), l.held = [] → l.owed = [] → Q (.error (.syscall errno)) l)
    (hends : ∀ children (l : Ledger), l.held = [] → l.owed = [] → Q (.ok children) l) :
    (runStages output left right readEnd writeEnd ⟨some readEnd, some writeEnd⟩).Ensures output l
      fun result l => result.1.read.toList ++ result.1.write.toList = l.held ∧
        Q result.2 { l with held := [] } := by
  have hproducer : l.Wires output
      { program := left, stdout := some writeEnd, unused := [readEnd, writeEnd] } := by
    simp [Ledger.Wires, *]
  have hconsumer : Ledger.Wires output { l with forks := 1 }
      { program := right, stdin := some readEnd, stdout := output,
        unused := [readEnd, writeEnd] } := by
    simp [Ledger.Wires, *]
  unfold runStages
  refine .bind (spawn_ensures hproducer (fun e => ?_) fun pid => ?_)
  · exact ⟨hheld.symm, hfails _ _ rfl howed⟩
  rw [hforks, howed]
  refine .bind (spawn_ensures hconsumer (fun e => .bind ?_) fun pid => .bind ?_)
  · refine close_ensures hheld.symm (.bind ?_)
    exact abandon_ensures rfl hstages.symm rfl ⟨rfl, hfails _ _ rfl rfl⟩
  · refine close_ensures hheld.symm (.bind ?_)
    exact reapBoth_ensures rfl hstages.symm rfl (fun _ => ⟨rfl, hfails _ _ rfl rfl⟩)
      fun _ => ⟨rfl, hends _ _ rfl rfl⟩

theorem runPiped_ensures {left right : Argv} {Q : Except LaunchError (List Child) → Ledger → Prop}
    (hstages : l.stages = 2) (hpipe : l.pipe = none) (hforks : l.forks = 0) (hheld : l.held = [])
    (howed : l.owed = []) (hQ : ∀ result (l : Ledger), Outcome [left, right] result → l.held = [] →
      l.owed = [] → Q result l) :
    (runPiped output left right).Ensures output l Q := by
  unfold runPiped
  cases hleft : Program.ofArgv left with
  | error e => exact hQ _ _ (.refused (.head _) hleft) hheld howed
  | ok producer => cases hright : Program.ofArgv right with
    | error e => exact hQ _ _ (.refused (.tail _ (.head _)) hright) hheld howed
    | ok consumer =>
      refine within_ensures hstages hpipe hheld (fun _ => hQ _ _ .failed hheld howed) fun _ _ => ?_
      exact runStages_ensures hstages rfl hforks rfl howed (fun _ _ => hQ _ _ .failed)
        fun _ _ => hQ _ _ .ended

/-- A launch leaves nothing open, and comes back with an outcome of its vectors. -/
theorem launch_ensures (output : Option Fd) (command : Command) :
    (launch output command).Ensures output { stages := command.stages.length } fun result l =>
      l.held = [] ∧ l.owed = [] ∧ Outcome command.stages result := by
  cases command with
  | single argv =>
    exact runSingle_ensures rfl rfl rfl rfl rfl fun _ _ houtcome hheld howed =>
      ⟨hheld, howed, houtcome⟩
  | piped left right =>
    exact runPiped_ensures rfl rfl rfl rfl rfl fun _ _ houtcome hheld howed =>
      ⟨hheld, howed, houtcome⟩

end

end PipeShell.Launch
