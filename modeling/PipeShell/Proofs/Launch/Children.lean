import PipeShell.Launch.Child

/-! # Children on the way to their programs

A child arranges its descriptors and then makes calls that leave them alone. What it will have
arranged is settled when it is created (`arrange`), and so is what its program starts with, however
many of its calls have been made (`Becoming.step`). -/

namespace PipeShell.Launch

/-- The table after these calls, if they only arrange descriptors and all succeed. -/
def arrange : List ChildCall → Table → Option Table
  | [], t => some t
  | .dup2 source target :: calls, t => (t.dup2 source target).bind (arrange calls)
  | .close fd :: calls, t => arrange calls (t.close fd)
  | _ :: _, _ => none

/-- The calls that arrange the descriptors. -/
def ChildPlan.redirections (plan : ChildPlan) : List ChildCall :=
  (plan.stdin.map (.dup2 · 0)).toList ++ (plan.stdout.map (.dup2 · 1)).toList ++
    (plan.unused.filter (2 < ·)).map .close

theorem ChildPlan.calls_eq (plan : ChildPlan) :
    plan.calls = plan.redirections ++ [.defaultSigpipe, .exec plan.program,
      .write 2 plan.program.notFound, .exit notFound] := rfl

/-- A process that arranges, or has arranged, the table `F`. Its program, once there, has what an
image inherits of that, but for the descriptors that it has dropped. -/
inductive Becoming (F : Table) : Process → List Fd → Prop
  | arranging {calls program message code t} : arrange calls t = some F →
    Becoming F (.starting
      (calls ++ [.defaultSigpipe, .exec program, .write 2 message, .exit code]) t) []
  | arranged {program message code} :
    Becoming F (.starting [.exec program, .write 2 message, .exit code] F) []
  | failed {message code} : Becoming F (.starting [.write 2 message, .exit code] F) []
  | leaving {code} : Becoming F (.starting [.exit code] F) []
  | replaced {program t dropped} : (∀ fd, t fd = if fd ∈ dropped then none else F.exec fd) →
    Becoming F (.replaced program t) dropped
  | ended {code dropped} : Becoming F (.ended code) dropped

namespace Becoming

variable {F : Table} {p : Process} {dropped : List Fd}

theorem created {plan : ChildPlan} {t : Table} (h : arrange plan.redirections t = some F) :
    Becoming F (.created plan t) [] := by
  rw [Process.created, ChildPlan.calls_eq]
  exact .arranging h

/-- The process stays on its way. -/
theorem step (h : Becoming F p dropped) (executes : Program → Bool) :
    Becoming F (p.step executes) dropped := by
  cases h with
  | @arranging calls program message code t harrange =>
    match calls, harrange with
    | [], harrange =>
      obtain rfl := Option.some.inj harrange
      exact .arranged
    | .dup2 source target :: calls, harrange =>
      obtain ⟨t', hdup, harrange⟩ := Option.bind_eq_some_iff.mp harrange
      simp only [List.cons_append, Process.step, hdup]
      exact .arranging harrange
    | .close fd :: calls, harrange => exact .arranging harrange
  | @arranged program message code =>
    simp only [Process.step]
    split
    · exact .replaced fun fd => by simp
    · exact .failed
  | failed => exact .leaving
  | leaving => exact .ended
  | replaced ht => exact .replaced ht
  | ended => exact .ended

/-- A program that closes a descriptor has dropped it. -/
theorem close {program : Program} {t : Table} (h : Becoming F (.replaced program t) dropped)
    (fd : Fd) : Becoming F (.replaced program (t.close fd)) (fd :: dropped) := by
  obtain _ | _ | _ | _ | ht | _ := h
  refine .replaced fun other => ?_
  by_cases hother : other = fd
  · simp [Table.close, Table.set, hother]
  · simp [Table.close, Table.set, hother, ht]

/-- What a program holds is inherited. -/
theorem exec_eq {d : Descriptor} {fd : Fd} (h : Becoming F p dropped) (hstarted : p.isStarted)
    (hfd : p.table fd = some d) : F.exec fd = some d := by
  cases h with
  | arranging | arranged | failed | leaving => cases hstarted
  | ended => cases hfd
  | replaced ht =>
    have hfd := (ht fd).symm.trans hfd
    split at hfd
    · cases hfd
    · exact hfd

end Becoming
end PipeShell.Launch
