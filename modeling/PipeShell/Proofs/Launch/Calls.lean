import PipeShell.Launch.Launching

/-! # Calls of the launcher

What a launching does, as a list of system calls with the answers that they got. `Makes p calls q`
says that the kernel could answer so that `p` has come to `q`; nothing is assumed of the answers,
and a wait may be interrupted any number of times. A call is the one that `resume` answers, with
its arguments (`resume_eq_some_iff`). A run on a kernel makes the calls that the kernel answers
(`makes_run`), and interrupted waits between them change nothing (`Makes.eq_run`).

Four things are read off a list of calls: the descriptors that were made and those that were
closed, the children that were forked, and the waits. -/

namespace PipeShell.Launch

/-- A system call and the answer that it got. -/
inductive Call where
  | pipe (answer : Except Errno (Fd × Fd))
  | fork (plan : ChildPlan) (answer : Except Errno Nat)
  | close (fd : Fd)
  | wait (pid : Nat) (answer : Except Errno UInt32)
  | log (record : Log.Record)

namespace Call

/-- The answer alone. -/
def reply : Call → Launching.Reply
  | pipe answer => .pipe answer
  | fork _ answer => .fork answer
  | close _ => .closed
  | wait _ answer => .wait answer
  | log _ => .logged

/-- The descriptors that the call opens. -/
def made : Call → List Fd
  | pipe (.ok (readEnd, writeEnd)) => [readEnd, writeEnd]
  | _ => []

/-- The descriptors that the call closes. -/
def closed : Call → List Fd
  | close fd => [fd]
  | _ => []

/-- The children that the call creates. -/
def forked : Call → List Nat
  | fork _ (.ok pid) => [pid]
  | _ => []

/-- The wait that the call is: for whom, and how it came back. -/
def waits : Call → List (Nat × Except Errno UInt32)
  | wait pid answer => [(pid, answer)]
  | _ => []

/-- Whether the call is a wait that was interrupted. -/
def isInterrupted : Call → Bool
  | wait _ (.error e) => e == .interrupted
  | _ => false

end Call

/-- All descriptors that were opened. -/
def made (calls : List Call) : List Fd := calls.flatMap Call.made

/-- All descriptors that were closed. -/
def closed (calls : List Call) : List Fd := calls.flatMap Call.closed

/-- All children that were created. -/
def forked (calls : List Call) : List Nat := calls.flatMap Call.forked

/-- All waits. -/
def waits (calls : List Call) : List (Nat × Except Errno UInt32) := calls.flatMap Call.waits

section
variable (c : Call) (calls calls₁ calls₂ : List Call)

@[simp] theorem made_nil : made [] = [] := rfl
@[simp] theorem made_cons : made (c :: calls) = c.made ++ made calls := rfl
@[simp] theorem made_append : made (calls₁ ++ calls₂) = made calls₁ ++ made calls₂ :=
  List.flatMap_append

@[simp] theorem closed_nil : closed [] = [] := rfl
@[simp] theorem closed_cons : closed (c :: calls) = c.closed ++ closed calls := rfl
@[simp] theorem closed_append : closed (calls₁ ++ calls₂) = closed calls₁ ++ closed calls₂ :=
  List.flatMap_append

@[simp] theorem forked_nil : forked [] = [] := rfl
@[simp] theorem forked_cons : forked (c :: calls) = c.forked ++ forked calls := rfl
@[simp] theorem forked_append : forked (calls₁ ++ calls₂) = forked calls₁ ++ forked calls₂ :=
  List.flatMap_append

@[simp] theorem waits_nil : waits [] = [] := rfl
@[simp] theorem waits_cons : waits (c :: calls) = c.waits ++ waits calls := rfl
@[simp] theorem waits_append : waits (calls₁ ++ calls₂) = waits calls₁ ++ waits calls₂ :=
  List.flatMap_append

end

namespace Launching

variable {α : Type}

/-- One call, and what is left to do after it. -/
inductive Next : Launching α → Call → Launching α → Prop
  | pipe {next} (answer) : Next (.pipe next) (.pipe answer) (next answer)
  | fork {plan next} (answer) : Next (.fork plan next) (.fork plan answer) (next answer)
  | close {fd next} : Next (.close fd next) (.close fd) next
  | interrupted {pid next} :
    Next (.wait pid next) (.wait pid (.error .interrupted)) (.wait pid next)
  | wait {pid next} (answer) : answer ≠ .error .interrupted →
    Next (.wait pid next) (.wait pid answer) (next answer)
  | log {record next} : Next (.log record next) (.log record) next

/-- The calls that bring a launching from one point to another. -/
inductive Makes : Launching α → List Call → Launching α → Prop
  | refl {p} : Makes p [] p
  | step {p q r c calls} : Next p c q → Makes q calls r → Makes p (c :: calls) r

variable {p q : Launching α} {c : Call}

theorem Next.resume_eq (h : Next p c q) : p.resume c.reply = some q := by
  cases h with
  | @wait pid next answer hanswer =>
    cases answer with
    | ok raw => rfl
    | error e => simp [resume, Call.reply, show e ≠ .interrupted from fun h => hanswer (h ▸ rfl)]
  | _ => rfl

/-- An answer means something exactly if it answers the next call. -/
theorem resume_eq_some_iff {reply : Reply} :
    p.resume reply = some q ↔ ∃ c, c.reply = reply ∧ Next p c q := by
  constructor
  · intro h
    cases p with
    | done value => cases h
    | pipe next =>
      cases reply <;> cases h
      exact ⟨_, rfl, .pipe _⟩
    | fork plan next =>
      cases reply <;> cases h
      exact ⟨_, rfl, .fork _⟩
    | close fd next =>
      cases reply <;> cases h
      exact ⟨_, rfl, .close⟩
    | log record next =>
      cases reply <;> cases h
      exact ⟨_, rfl, .log⟩
    | wait pid next =>
      rcases reply with _ | _ | _ | (e | raw) | _ <;> try cases h
      · by_cases he : e = .interrupted
        · subst he
          cases h
          exact ⟨_, rfl, .interrupted⟩
        · simp only [resume, he, if_false, Option.some.injEq] at h
          subst h
          exact ⟨_, rfl, .wait _ fun h => he (Except.error.inj h)⟩
      · exact ⟨_, rfl, .wait _ nofun⟩
  · rintro ⟨c, rfl, h⟩
    exact h.resume_eq

/-! ## Runs on a kernel -/

section
variable {σ : Type}

/-- No wait comes back before its time: if one was interrupted, the kernel has made it again. -/
def Kernel.Patient (kernel : Kernel σ) : Prop :=
  ∀ pid s, (kernel.wait pid s).1 ≠ .error .interrupted

/-- The calls of a run, each with the answer of the kernel. -/
def calls (kernel : Kernel σ) : Launching α → σ → List Call
  | done _, _ => []
  | pipe next, s =>
    let (answer, s) := kernel.pipe s
    .pipe answer :: (next answer).calls kernel s
  | fork plan next, s =>
    let (answer, s) := kernel.fork plan s
    .fork plan answer :: (next answer).calls kernel s
  | close fd next, s => .close fd :: next.calls kernel (kernel.close fd s)
  | wait pid next, s =>
    let (answer, s) := kernel.wait pid s
    .wait pid answer :: (next answer).calls kernel s
  | log record next, s => .log record :: next.calls kernel (kernel.log record s)

/-- The calls that were not interrupted. -/
def settled (made : List Call) : List Call := made.filter (!·.isInterrupted)

theorem settled_cons {made : List Call} (h : c.isInterrupted = false) :
    settled (c :: made) = c :: settled made := by
  simp [settled, h]

variable {kernel : Kernel σ} {s : σ} {value : α} {made : List Call}

/-- What a run on a kernel does, it does by making its calls. -/
theorem makes_run (hkernel : kernel.Patient) (p : Launching α) (s : σ) :
    p.Makes (p.calls kernel s) (.done (p.run kernel s).1) := by
  induction p generalizing s with
  | done value => exact .refl
  | pipe next ih => exact .step (.pipe _) (ih _ _)
  | fork plan next ih => exact .step (.fork _) (ih _ _)
  | close fd next ih => exact .step .close (ih _)
  | wait pid next ih => exact .step (.wait _ (hkernel pid s)) (ih _ _)
  | log record next ih => exact .step .log (ih _)

/-- Whatever waits are interrupted, and however often, a launching whose other calls are answered as
a kernel answers them comes to what a run on that kernel comes to. -/
theorem Makes.eq_run (h : p.Makes made (.done value))
    (hmade : settled made = p.calls kernel s) : value = (p.run kernel s).1 := by
  generalize hend : (.done value : Launching α) = q at h
  induction h generalizing s with
  | refl =>
    subst hend
    rfl
  | @step p q r c rest hnext _ ih =>
    cases hnext with
    | interrupted => exact ih hmade hend
    | pipe answer | fork answer =>
      obtain ⟨hcall, hrest⟩ := List.cons.inj hmade
      cases hcall
      exact ih hrest hend
    | close | log => exact ih (List.cons.inj hmade).2 hend
    | @wait pid next answer hanswer =>
      have hkept : (Call.wait pid answer).isInterrupted = false := by
        cases answer with
        | ok raw => rfl
        | error e => simpa [Call.isInterrupted] using fun he => hanswer (congrArg _ he)
      rw [settled_cons hkept] at hmade
      obtain ⟨hcall, hrest⟩ := List.cons.inj hmade
      cases hcall
      exact ih hrest hend

end

end Launching
end PipeShell.Launch
