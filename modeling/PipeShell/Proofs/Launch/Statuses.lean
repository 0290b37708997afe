import PipeShell.Proofs.Launch.Terminations

/-! # Statuses

What a launch comes back with, read off its calls: its children are created first, and then each is
waited for, in the order of the stages, until the wait is not interrupted (`launch_makes`). The
answers decide the result, the first failed wait before the second, and a child that is handed back
has the status of its own termination, in whichever order the children end (`launch_statuses`). -/

namespace PipeShell.Launch
open Launching

/-! ## Calls of a sequence -/

section
variable {α β : Type} {p : Launching α} {f : α → Launching β} {q : Launching β} {b : β}
  {c : Call} {calls : List Call}

theorem makes_done {a a' : α} (h : Makes (.done a) calls (.done a')) : calls = [] ∧ a' = a := by
  obtain _ | ⟨hnext, -⟩ := h
  · exact ⟨rfl, rfl⟩
  · cases hnext

/-- The next call of a sequence is one of its first part, unless that is done. -/
theorem next_bind (h : Next (p.bind f) c q) :
    (∃ a, p = .done a) ∨ ∃ p', Next p c p' ∧ q = p'.bind f := by
  cases p with
  | done a => exact .inl ⟨a, rfl⟩
  | pipe next =>
    obtain ⟨answer⟩ := h
    exact .inr ⟨_, .pipe answer, rfl⟩
  | fork plan next =>
    cases h with
    | fork answer => exact .inr ⟨_, .fork answer, rfl⟩
  | close fd next =>
    cases h
    exact .inr ⟨_, .close, rfl⟩
  | wait pid next =>
    cases h with
    | interrupted => exact .inr ⟨_, .interrupted, rfl⟩
    | wait answer hanswer => exact .inr ⟨_, .wait answer hanswer, rfl⟩
  | log record next =>
    cases h
    exact .inr ⟨_, .log, rfl⟩

/-- The calls of a sequence are those of its first part and then those of the rest. -/
theorem makes_bind (h : (p >>= f).Makes calls (.done b)) :
    ∃ a calls₁ calls₂, calls = calls₁ ++ calls₂ ∧ p.Makes calls₁ (.done a) ∧
      (f a).Makes calls₂ (.done b) := by
  change (p.bind f).Makes calls (.done b) at h
  generalize hq : p.bind f = q, hr : Launching.done b = r at h
  induction h generalizing p with
  | refl =>
    subst hr
    cases p with
    | done a => exact ⟨a, [], [], rfl, .refl, hq ▸ .refl⟩
    | _ => cases hq
  | @step q q' r c calls hnext hmakes ih =>
    subst hq hr
    rcases next_bind hnext with ⟨a, rfl⟩ | ⟨p', hp', rfl⟩
    · exact ⟨a, [], _, rfl, .refl, .step hnext hmakes⟩
    · obtain ⟨a, calls₁, calls₂, rfl, h₁, h₂⟩ := ih rfl rfl
      exact ⟨a, _ :: calls₁, calls₂, rfl, .step hp' h₁, h₂⟩

end

/-! ## Calls of the launcher -/

/-- Waits for one child: interrupted ones, and the one that was not. -/
def attempts (n pid : Nat) (answer : Except Errno UInt32) : List (Nat × Except Errno UInt32) :=
  List.replicate n (pid, .error .interrupted) ++ [(pid, answer)]

/-- The child as the answer to the wait for it leaves it. -/
def answered (pid : Nat) : Except Errno UInt32 → Except LaunchError Child
  | .error e => .error (.syscall e)
  | .ok raw => .ok ⟨pid, some (.ofRaw raw)⟩

/-- No child is created and none is waited for. -/
def Aside (calls : List Call) : Prop := forked calls = [] ∧ waits calls = []

section
variable {output : Option Fd} {calls : List Call} {child producer consumer : Child}

theorem note_makes {level : Log.Level} {text : String} {u : Unit}
    (h : (note level text).Makes calls (.done u)) : Aside calls := by
  obtain _ | ⟨⟨⟩, h⟩ := h
  obtain ⟨rfl, -⟩ := makes_done h
  exact ⟨rfl, rfl⟩

theorem wait_makes {α : Type} {pid : Nat} {next : Except Errno UInt32 → Launching α} {a : α}
    (h : (Launching.wait pid next).Makes calls (.done a)) :
    ∃ n answer rest, answer ≠ .error .interrupted ∧ forked calls = forked rest ∧
      waits calls = attempts n pid answer ++ waits rest ∧ (next answer).Makes rest (.done a) := by
  generalize hp : Launching.wait pid next = p, hr : Launching.done a = r at h
  induction h with
  | refl =>
    subst hp
    cases hr
  | @step _ q r _ rest hnext hmakes ih =>
    subst hp hr
    cases hnext with
    | interrupted =>
      obtain ⟨n, answer, rest, hanswer, hforked, hwaits, hrest⟩ := ih rfl rfl
      refine ⟨n + 1, answer, rest, hanswer, hforked, ?_, hrest⟩
      rw [waits_cons, hwaits]
      rfl
    | wait answer hanswer => exact ⟨0, answer, rest, hanswer, rfl, rfl, hmakes⟩

theorem spawn_makes {plan : ChildPlan} {result : Except LaunchError Child}
    (h : (spawn plan).Makes calls (.done result)) :
    waits calls = [] ∧ ((∃ e, result = .error e ∧ forked calls = []) ∨
      ∃ pid, result = .ok ⟨pid, none⟩ ∧ forked calls = [pid]) := by
  obtain _ | ⟨hnext, h⟩ := h
  cases hnext with
  | fork answer =>
    cases answer with
    | error e =>
      obtain ⟨rfl, rfl⟩ := makes_done h
      exact ⟨rfl, .inl ⟨_, rfl, rfl⟩⟩
    | ok pid =>
      obtain ⟨_, calls₁, calls₂, rfl, hnote, hdone⟩ := makes_bind h
      obtain ⟨hforked, hwaits⟩ := note_makes hnote
      obtain ⟨rfl, rfl⟩ := makes_done hdone
      refine ⟨by simp [Call.waits, hwaits], .inr ⟨pid, rfl, ?_⟩⟩
      simp [Call.forked, hforked]

theorem reap_makes {result : Except LaunchError Child}
    (h : (reap child).Makes calls (.done result)) :
    forked calls = [] ∧ ∃ n answer, answer ≠ .error .interrupted ∧
      waits calls = attempts n child.pid answer ∧ result = answered child.pid answer := by
  obtain ⟨n, answer, rest, hanswer, hforked, hwaits, hrest⟩ := wait_makes h
  cases answer with
  | error e =>
    obtain ⟨rfl, rfl⟩ := makes_done hrest
    exact ⟨hforked, n, _, hanswer, by simpa using hwaits, rfl⟩
  | ok raw =>
    obtain ⟨_, calls₁, calls₂, rfl, hnote, hdone⟩ := makes_bind hrest
    obtain ⟨hnone, hnowait⟩ := note_makes hnote
    obtain ⟨rfl, rfl⟩ := makes_done hdone
    refine ⟨by simp [hforked, hnone], n, _, hanswer, by simpa [hnowait] using hwaits, rfl⟩

theorem abandon_makes {u : Unit} (h : (abandon producer).Makes calls (.done u)) :
    forked calls = [] := by
  obtain ⟨result, calls₁, calls₂, rfl, hreap, hrest⟩ := makes_bind h
  have hfirst := (reap_makes hreap).1
  cases result with
  | error e => simp [hfirst, (note_makes hrest).1]
  | ok child =>
    obtain ⟨rfl, -⟩ := makes_done hrest
    simp [hfirst]

/-- Both are waited for, whatever becomes of the first wait. -/
theorem reapBoth_makes {result : Except LaunchError (List Child)}
    (h : (reapBoth producer consumer).Makes calls (.done result)) :
    forked calls = [] ∧ ∃ n a m b, a ≠ .error .interrupted ∧ b ≠ .error .interrupted ∧
      waits calls = attempts n producer.pid a ++ attempts m consumer.pid b ∧
      result = do return [← answered producer.pid a, ← answered consumer.pid b] := by
  obtain ⟨first, calls₁, rest, rfl, hfirst, hrest⟩ := makes_bind h
  obtain ⟨second, calls₂, rest, rfl, hsecond, hrest⟩ := makes_bind hrest
  obtain ⟨hnone₁, n, a, ha, hwaits₁, rfl⟩ := reap_makes hfirst
  obtain ⟨hnone₂, m, b, hb, hwaits₂, rfl⟩ := reap_makes hsecond
  have hdone : rest = [] ∧
      result = do return [← answered producer.pid a, ← answered consumer.pid b] := by
    cases a <;> cases b <;> exact makes_done hrest
  obtain ⟨rfl, hresult⟩ := hdone
  exact ⟨by simp [hnone₁, hnone₂], n, a, m, b, ha, hb, by simp [hwaits₁, hwaits₂], hresult⟩

theorem close_makes {pipe pipe' : Pipe} (h : pipe.close.Makes calls (.done pipe')) :
    Aside calls := by
  have hclose : ∀ (fds : List Fd) {calls : List Call}, Makes (do
        for fd in fds do
          Launching.close fd (.done ())
        return (⟨none, none⟩ : Pipe)) calls (.done pipe') → Aside calls := by
    intro fds
    induction fds with
    | nil =>
      intro calls h
      obtain ⟨rfl, -⟩ := makes_done h
      exact ⟨rfl, rfl⟩
    | cons fd fds ih =>
      intro calls h
      rw [List.forIn_cons] at h
      obtain _ | ⟨⟨⟩, h⟩ := h
      obtain ⟨hforked, hwaits⟩ := ih h
      exact ⟨hforked, hwaits⟩
  exact hclose _ h

/-! ## Launches -/

/-- What a launch of so many stages comes back with, by the children that were created and the waits
that were made. -/
inductive Collects : Nat → List Nat → List (Nat × Except Errno UInt32) →
    Except LaunchError (List Child) → Prop
  | unstarted {stages pids waits e} : pids.length < stages → Collects stages pids waits (.error e)
  | single {pid n answer} : answer ≠ .error .interrupted →
    Collects 1 [pid] (attempts n pid answer) (do return [← answered pid answer])
  | piped {p c n a m b} : a ≠ .error .interrupted → b ≠ .error .interrupted →
    Collects 2 [p, c] (attempts n p a ++ attempts m c b)
      (do return [← answered p a, ← answered c b])

/-- Calls that create all children before the first wait, and come back with this. -/
def CollectsIn (stages : Nat) (calls : List Call) (result : Except LaunchError (List Child)) :
    Prop :=
  ∃ started awaited, calls = started ++ awaited ∧ waits started = [] ∧ forked awaited = [] ∧
    Collects stages (forked started) (waits awaited) result

theorem CollectsIn.refused {stages : Nat} {e : LaunchError} (h : 0 < stages) :
    CollectsIn stages [] (.error e) :=
  ⟨[], [], rfl, rfl, rfl, .unstarted h⟩

theorem runSingle_makes {argv : Argv} {result : Except LaunchError (List Child)}
    (h : (runSingle output argv).Makes calls (.done result)) : CollectsIn 1 calls result := by
  unfold runSingle at h
  cases hargv : Program.ofArgv argv with
  | error e =>
    rw [hargv] at h
    obtain ⟨rfl, rfl⟩ := makes_done h
    exact .refused Nat.one_pos
  | ok program =>
    rw [hargv] at h
    obtain ⟨started, calls₁, rest, rfl, hspawn, hrest⟩ := makes_bind h
    obtain ⟨hnowait, ⟨e, rfl, hforked⟩ | ⟨pid, rfl, hforked⟩⟩ := spawn_makes hspawn
    · obtain ⟨rfl, rfl⟩ := makes_done hrest
      exact ⟨calls₁, [], rfl, hnowait, rfl, .unstarted (by simp [hforked])⟩
    · obtain ⟨ended, calls₂, rest, rfl, hreap, hrest⟩ := makes_bind hrest
      obtain ⟨hnone, n, answer, hanswer, hwaits, rfl⟩ := reap_makes hreap
      have hdone : rest = [] ∧ result = do return [← answered pid answer] := by
        cases answer <;> exact makes_done hrest
      obtain ⟨rfl, rfl⟩ := hdone
      refine ⟨calls₁, calls₂, by simp, hnowait, hnone, ?_⟩
      rw [hforked, hwaits]
      exact .single hanswer

theorem runStages_makes {left right : Program} {readEnd writeEnd : Fd} {pipe pipe' : Pipe}
    {result : Except LaunchError (List Child)}
    (h : (runStages output left right readEnd writeEnd pipe).Makes calls
      (.done (pipe', result))) : CollectsIn 2 calls result := by
  unfold runStages at h
  obtain ⟨producer, calls₁, rest, rfl, hspawn, hrest⟩ := makes_bind h
  obtain ⟨hnowait₁, ⟨e, rfl, hforked₁⟩ | ⟨p, rfl, hforked₁⟩⟩ := spawn_makes hspawn
  · obtain ⟨rfl, hresult⟩ := makes_done hrest
    cases hresult
    exact ⟨calls₁, [], rfl, hnowait₁, rfl, .unstarted (by simp [hforked₁])⟩
  obtain ⟨consumer, calls₂, rest, rfl, hspawn, hrest⟩ := makes_bind hrest
  obtain ⟨closed, calls₃, rest, rfl, hclose, hrest⟩ := makes_bind hrest
  obtain ⟨hnone₃, hnowait₃⟩ := close_makes hclose
  obtain ⟨hnowait₂, ⟨e, rfl, hforked₂⟩ | ⟨c, rfl, hforked₂⟩⟩ := spawn_makes hspawn
  · obtain ⟨_, calls₄, rest, rfl, habandon, hrest⟩ := makes_bind hrest
    obtain ⟨rfl, hresult⟩ := makes_done hrest
    cases hresult
    refine ⟨calls₁ ++ calls₂ ++ calls₃, calls₄, by simp, by simp [*], abandon_makes habandon,
      .unstarted ?_⟩
    simp [*]
  · obtain ⟨both, calls₄, rest, rfl, hreap, hrest⟩ := makes_bind hrest
    obtain ⟨rfl, hresult⟩ := makes_done hrest
    cases hresult
    obtain ⟨hnone₄, n, a, m, b, ha, hb, hwaits, rfl⟩ := reapBoth_makes hreap
    refine ⟨calls₁ ++ calls₂ ++ calls₃, calls₄, by simp, by simp [*], hnone₄, ?_⟩
    have hforked : forked (calls₁ ++ calls₂ ++ calls₃) = [p, c] := by simp [*]
    rw [hforked, hwaits]
    exact .piped ha hb

theorem runPiped_makes {left right : Argv} {result : Except LaunchError (List Child)}
    (h : (runPiped output left right).Makes calls (.done result)) : CollectsIn 2 calls result := by
  unfold runPiped at h
  cases hleft : Program.ofArgv left with
  | error e =>
    rw [hleft] at h
    obtain ⟨rfl, rfl⟩ := makes_done h
    exact .refused Nat.two_pos
  | ok producer => cases hright : Program.ofArgv right with
    | error e =>
      rw [hleft, hright] at h
      obtain ⟨rfl, rfl⟩ := makes_done h
      exact .refused Nat.two_pos
    | ok consumer =>
      rw [hleft, hright] at h
      obtain _ | ⟨hnext, h⟩ := h
      cases hnext with
      | pipe answer =>
        rcases answer with e | ⟨readEnd, writeEnd⟩
        · obtain ⟨rfl, rfl⟩ := makes_done h
          exact ⟨[_], [], rfl, rfl, rfl, .unstarted Nat.two_pos⟩
        · obtain ⟨⟨pipe, value⟩, calls₁, rest, rfl, hstages, hrest⟩ := makes_bind h
          obtain ⟨_, calls₂, rest, rfl, hclose, hrest⟩ := makes_bind hrest
          obtain ⟨rfl, rfl⟩ := makes_done hrest
          obtain ⟨hnone, hnowait⟩ := close_makes hclose
          obtain ⟨started, awaited, rfl, hstarted, hawaited, hcollects⟩ := runStages_makes hstages
          refine ⟨.pipe (.ok (readEnd, writeEnd)) :: started, awaited ++ calls₂, by simp, ?_, ?_, ?_⟩
          · simpa [Call.waits] using hstarted
          · simp [hawaited, hnone]
          · simpa [Call.forked, hnowait] using hcollects

theorem launch_makes {command : Command} {result : Except LaunchError (List Child)}
    (h : (launch output command).Makes calls (.done result)) :
    CollectsIn command.stages.length calls result := by
  cases command with
  | single argv => exact runSingle_makes h
  | piped left right => exact runPiped_makes h

end

section
variable {pids : List Nat} {asked : List (Nat × Except Errno UInt32)} {pid p c : Nat}
  {result : Except LaunchError (List Child)}

theorem Collects.one (h : Collects 1 [pid] asked result) :
    ∃ n answer, answer ≠ .error .interrupted ∧ asked = attempts n pid answer ∧
      result = do return [← answered pid answer] := by
  cases h with
  | unstarted hfew => exact absurd hfew (Nat.lt_irrefl 1)
  | single hanswer => exact ⟨_, _, hanswer, rfl, rfl⟩

theorem Collects.two (h : Collects 2 [p, c] asked result) :
    ∃ n a m b, a ≠ .error .interrupted ∧ b ≠ .error .interrupted ∧
      asked = attempts n p a ++ attempts m c b ∧
      result = do return [← answered p a, ← answered c b] := by
  cases h with
  | unstarted hfew => exact absurd hfew (Nat.lt_irrefl 2)
  | piped ha hb => exact ⟨_, _, _, _, ha, hb, rfl, rfl⟩

/-- The children that are handed back are those that were created, each with a status. -/
theorem Collects.children {stages : Nat} {children : List Child}
    (h : Collects stages pids asked (.ok children)) :
    children.map Child.pid = pids ∧ children.length = stages ∧
      ∀ child ∈ children, child.status ≠ none := by
  generalize hresult : Except.ok children = result at h
  cases h with
  | unstarted => cases hresult
  | @single pid n answer =>
    cases answer with
    | error => cases hresult
    | ok raw =>
      cases hresult
      exact ⟨rfl, rfl, List.forall_mem_singleton.mpr nofun⟩
  | @piped p c n a m b =>
    cases a with
    | error => cases hresult
    | ok raw => cases b with
      | error => cases hresult
      | ok raw' =>
        cases hresult
        exact ⟨rfl, rfl, by simp⟩

end

/-! ## Children in time -/

section
variable {output : Option Fd} {l l' : Ledger} {k k' : Census} {events : List Event} {c : Call}

/-- Where children are created first and then waited for, no two have the same number, and a wait
that succeeds brings the word of the one death of its child. -/
theorem Course.collects {stages : Nat} {result : Except LaunchError (List Child)}
    (h : Course k events k') (hcalls : CollectsIn stages (calls events) result) :
    Collects stages (forked (calls events)) (waits (calls events)) result ∧
      (forked (calls events)).Nodup ∧
      ∀ pid ∈ forked (calls events), ∀ raw, (pid, .ok raw) ∈ waits (calls events) →
        ∃ t, raw = t.word ∧ deaths pid events = [t] := by
  obtain ⟨started, awaited, hcalls, hstarted, hawaited, hcollects⟩ := hcalls
  have hforked : forked (calls events) = forked started := by simp [hcalls, hawaited]
  have hwaits : waits (calls events) = waits awaited := by simp [hcalls, hstarted]
  obtain ⟨events₁, events₂, rfl, hcalls₁, hcalls₂⟩ := List.filterMap_eq_append_iff.mp hcalls
  obtain ⟨m, hfirst, hsecond⟩ := h.append_inv
  have hnone : NoneReaped (calls events₁) := fun pid raw hmem => by
    rw [calls, hcalls₁, hstarted] at hmem
    cases hmem
  rw [hforked, hwaits, ← hcalls₁]
  refine ⟨hcalls₁ ▸ hcollects, hfirst.nodup_forked hnone, fun pid hpid raw hraw => ?_⟩
  have hbefore : deaths pid events₁ = m.ended pid := by
    rw [← hfirst.ended_eq hnone pid, Census.ended_of_none (hfirst.free_of_forked hnone hpid)]
    rfl
  have hnew : pid ∉ forked (calls events₂) := by
    rw [calls, hcalls₂, hawaited]
    exact List.not_mem_nil
  rw [← hcalls₂] at hraw
  obtain ⟨t, hword, hdeaths⟩ := hsecond.reaped hnew hraw
  exact ⟨t, hword, by rw [deaths_append, hbefore, hdeaths]⟩

/-- Who is owed a wait is there to be waited for. -/
structure Ledger.Covered (l : Ledger) (k : Census) : Prop where
  nodup : l.owed.Nodup
  there : ∀ pid ∈ l.owed, k pid ≠ none

namespace Ledger.Covered

theorem congr (h : l.Covered k) (howed : l'.owed = l.owed) : l'.Covered k :=
  ⟨howed ▸ h.nodup, howed ▸ h.there⟩

theorem died {pid : Nat} {t : Termination} (h : l.Covered k) :
    l.Covered (k.set pid (some (.dead t))) where
  nodup := h.nodup
  there other hother := by
    by_cases hpid : other = pid
    · rw [hpid, Census.set_self]
      nofun
    · rw [Census.set_of_ne hpid]
      exact h.there other hother

/-- The first of those who are owed a wait has had it. -/
theorem tail {k' : Census} (h : l.Covered k)
    (hk : ∀ pid, l.owed.head? ≠ some pid → k' pid = k pid) :
    Covered { l with owed := l.owed.tail } k' := by
  obtain ⟨hnodup, hthere⟩ := h
  cases howed : l.owed with
  | nil => exact ⟨.nil, List.forall_mem_nil _⟩
  | cons first rest =>
    rw [howed] at hnodup hthere hk
    obtain ⟨hfirst, hrest⟩ := List.nodup_cons.mp hnodup
    refine ⟨hrest, fun pid hpid => ?_⟩
    have hne : first ≠ pid := fun h => hfirst (h ▸ hpid)
    rw [hk pid (by simpa using hne)]
    exact hthere pid (.tail _ hpid)

/-- A call that is in order leaves those who are still owed a wait there. -/
theorem call (h : l.Covered k) (hallows : l.Allows output c) (hhappens : Happens k (.call c) k') :
    (l.after c).Covered k' := by
  cases hhappens with
  | @born plan pid hfree =>
    have hnew : pid ∉ l.owed := fun hpid => h.there pid hpid hfree
    refine ⟨List.nodup_append.mpr ⟨h.nodup, List.pairwise_singleton _ _, ?_⟩, fun other hother => ?_⟩
    · rintro other hother _ (_ | ⟨_, ⟨⟩⟩) rfl
      exact hnew hother
    · by_cases hpid : other = pid
      · rw [hpid, Census.set_self]
        nofun
      · rw [Census.set_of_ne hpid]
        exact h.there other ((List.mem_append.mp hother).resolve_right (by simpa using hpid))
  | @reaped pid t hdead =>
    obtain ⟨-, -, hhead⟩ := hallows
    exact h.tail fun other hother => Census.set_of_ne fun hpid => hother (hpid ▸ hhead)
  | other hno hnone =>
    cases c with
    | pipe answer => rcases answer with _ | ⟨_, _⟩ <;> exact h.congr rfl
    | fork plan answer =>
      cases answer with
      | error => exact h.congr rfl
      | ok pid => cases hno
    | close fd => exact h.congr rfl
    | wait pid answer =>
      cases answer with
      | ok raw => exact (hnone pid raw (.head _)).elim
      | error e =>
        by_cases he : e = .interrupted
        · subst he
          exact h
        · rw [after_wait fun heq => he (Except.error.inj heq)]
          exact h.tail fun _ _ => rfl
    | log record => exact h

theorem course (h : l.Covered k) (hcourse : Course k events k')
    (haudit : Audit output l (calls events) l') : l'.Covered k' := by
  induction hcourse generalizing l with
  | nil =>
    cases haudit
    exact h
  | @cons _ e _ _ _ hhappens _ ih =>
    cases e with
    | call c =>
      obtain _ | ⟨hallows, haudit⟩ := haudit
      exact ih (h.call hallows hhappens) haudit
    | death pid t =>
      cases hhappens
      exact ih h.died haudit

end Ledger.Covered

/-- The launcher can come to its end from here, with no wait that fails. -/
def CanReturn {α : Type} (p : Launching α) (k : Census) : Prop :=
  ∃ events value k', p.Makes (calls events) (.done value) ∧ Course k events k' ∧
    ∀ pid errno, (pid, .error errno) ∉ waits (calls events)

namespace CanReturn

variable {α : Type} {p q : Launching α}

theorem done (value : α) : CanReturn (.done value) k :=
  ⟨[], value, k, .refl, .nil, fun _ _ => List.not_mem_nil⟩

theorem call (hnext : Next p c q) (hhappens : Happens k (.call c) k')
    (hwaits : ∀ pid errno, (pid, .error errno) ∉ c.waits) (h : CanReturn q k') :
    CanReturn p k := by
  obtain ⟨events, value, k'', hmakes, hcourse, hnone⟩ := h
  refine ⟨.call c :: events, value, k'', .step hnext hmakes, .cons hhappens hcourse, ?_⟩
  intro pid errno hmem
  rw [calls_call, waits_cons] at hmem
  exact (List.mem_append.mp hmem).elim (hwaits pid errno) (hnone pid errno)

theorem aside (hnext : Next p c q) (hforked : c.forked = []) (hwaits : c.waits = [])
    (h : CanReturn q k) : CanReturn p k :=
  .call hnext (.aside hforked hwaits) (fun _ _ => by simp [hwaits]) h

theorem death {pid : Nat} {t : Termination} (hhappens : Happens k (.death pid t) k')
    (h : CanReturn p k') : CanReturn p k := by
  obtain ⟨events, value, k'', hmakes, hcourse, hnone⟩ := h
  exact ⟨.death pid t :: events, value, k'', hmakes, .cons hhappens hcourse, hnone⟩

/-- A wait for a child that is there succeeds when the child is dead. -/
theorem wait {pid : Nat} {next : Except Errno UInt32 → Launching α} (hthere : k pid ≠ none)
    (h : ∀ t k', (∀ other, other ≠ pid → k' other = k other) →
      CanReturn (next (.ok (Termination.word t))) k') : CanReturn (.wait pid next) k := by
  have hreap : ∀ (k' : Census) t, k' pid = some (.dead t) →
      (∀ other, other ≠ pid → k' other = k other) → CanReturn (.wait pid next) k' := by
    intro k' t hdead hsame
    refine .call (.wait (.ok t.word) nofun) (.reaped hdead) (fun _ _ => by simp [Call.waits]) ?_
    exact h t _ fun other hother => (Census.set_of_ne hother).trans (hsame other hother)
  cases hlife : k pid with
  | none => exact (hthere hlife).elim
  | some life => cases life with
    | running =>
      refine .death (.died hlife) (hreap _ (.exits 0) Census.set_self fun _ hother => ?_)
      exact Census.set_of_ne hother
    | dead t => exact hreap k t hlife fun _ _ => rfl

/-- Where those who are owed a wait are there, no wait need fail. -/
theorem of_ensures {Q : α → Ledger → Prop} (h : p.Ensures output l Q) (hcovered : l.Covered k) :
    CanReturn p k := by
  induction p generalizing l k with
  | done value => exact .done value
  | pipe next ih =>
    exact .aside (.pipe (.error .tooManyFiles)) rfl rfl (ih _ (h.2 _) (hcovered.congr rfl))
  | fork plan next ih =>
    exact .aside (.fork (.error .tryAgain)) rfl rfl (ih _ (h.2 _) (hcovered.congr rfl))
  | close fd next ih => exact .aside .close rfl rfl (ih h.2 (hcovered.congr rfl))
  | wait pid next ih =>
    obtain ⟨⟨-, -, hhead⟩, hnext⟩ := h
    refine .wait (hcovered.there pid (List.mem_of_mem_head? hhead)) fun t k' hsame => ?_
    refine ih _ (hnext _) (hcovered.tail fun other hother => hsame other fun hpid => ?_)
    exact hother (hpid ▸ hhead)
  | log record next ih => exact .aside .log rfl rfl (ih h hcovered)

end CanReturn

/-- Statuses go to the right children. In whichever order the children end, a launch that has created
all of them waits for each, the producer first, until the wait is not interrupted. It hands back a
child for each, with the status of the one death of that child, unless a wait has failed; then it
fails with the first of these failures. No child is handed back without a status, and from any point
the launcher can come to its end with no wait that fails. -/
theorem launch_statuses (hcourse : Course k events k') :
    (∀ argv pid result, (launch output (.single argv)).Makes (calls events) (.done result) →
      forked (calls events) = [pid] →
      ∃ n answer, answer ≠ .error .interrupted ∧ waits (calls events) = attempts n pid answer ∧
        (∀ errno, answer = .error errno → result = .error (.syscall errno)) ∧
        ∀ raw, answer = .ok raw →
          ∃ t, deaths pid events = [t] ∧ result = .ok [⟨pid, some t.status⟩]) ∧
    (∀ left right producer consumer result,
      (launch output (.piped left right)).Makes (calls events) (.done result) →
      forked (calls events) = [producer, consumer] → producer ≠ consumer ∧
      ∃ n a m b, a ≠ .error .interrupted ∧ b ≠ .error .interrupted ∧
        waits (calls events) = attempts n producer a ++ attempts m consumer b ∧
        (∀ errno, a = .error errno → result = .error (.syscall errno)) ∧
        (∀ raw errno, a = .ok raw → b = .error errno → result = .error (.syscall errno)) ∧
        ∀ raw₁ raw₂, a = .ok raw₁ → b = .ok raw₂ →
          ∃ t₁ t₂, deaths producer events = [t₁] ∧ deaths consumer events = [t₂] ∧
            result = .ok [⟨producer, some t₁.status⟩, ⟨consumer, some t₂.status⟩]) ∧
    (∀ command children, (launch output command).Makes (calls events) (.done (.ok children)) →
      children.map Child.pid = forked (calls events) ∧
        children.length = command.stages.length ∧ ∀ child ∈ children, child.status ≠ none) ∧
    ∀ command p, (launch output command).Makes (calls events) p → CanReturn p k' := by
  refine ⟨fun argv pid result hmakes hforked => ?_,
    fun left right producer consumer result hmakes hforked => ?_,
    fun command children hmakes => ?_, fun command p hmakes => ?_⟩
  · obtain ⟨hcollects, -, hstatus⟩ := hcourse.collects (launch_makes hmakes)
    rw [hforked] at hcollects hstatus
    obtain ⟨n, answer, hanswer, hwaits, rfl⟩ := hcollects.one
    refine ⟨n, answer, hanswer, hwaits, ?_, ?_⟩
    · rintro errno rfl
      rfl
    · rintro raw rfl
      obtain ⟨t, rfl, hdeaths⟩ := hstatus pid (.head _) raw (by simp [hwaits, attempts])
      exact ⟨t, hdeaths, by rw [← ExitStatus.ofRaw_word]; rfl⟩
  · obtain ⟨hcollects, hnodup, hstatus⟩ := hcourse.collects (launch_makes hmakes)
    rw [hforked] at hcollects hstatus hnodup
    obtain ⟨n, a, m, b, ha, hb, hwaits, rfl⟩ := hcollects.two
    refine ⟨by simpa using hnodup, n, a, m, b, ha, hb, hwaits, ?_, ?_, ?_⟩
    · rintro errno rfl
      rfl
    · rintro raw errno rfl rfl
      rfl
    · rintro raw₁ raw₂ rfl rfl
      obtain ⟨t₁, rfl, hdeaths₁⟩ := hstatus producer (.head _) raw₁ (by simp [hwaits, attempts])
      obtain ⟨t₂, rfl, hdeaths₂⟩ :=
        hstatus consumer (.tail _ (.head _)) raw₂ (by simp [hwaits, attempts])
      refine ⟨t₁, t₂, hdeaths₁, hdeaths₂, ?_⟩
      rw [← ExitStatus.ofRaw_word, ← ExitStatus.ofRaw_word]
      rfl
  · exact (hcourse.collects (launch_makes hmakes)).1.children
  · obtain ⟨l, haudit, hensures⟩ := (launch_ensures output command).makes hmakes
    have hcovered : Ledger.Covered { stages := command.stages.length } k :=
      ⟨.nil, List.forall_mem_nil _⟩
    exact .of_ensures hensures (hcovered.course hcourse haudit)

end

/-! The consumer dies first, of a signal that leaves a core dump, and each wait is interrupted once. -/

theorem makes_consumerFirst : ∃ events k', Course (fun _ => none) events k' ∧
    (launch none (.piped ⟨["a"]⟩ ⟨["b"]⟩)).Makes (calls events)
      (.done (.ok [⟨7, some (.exited 3)⟩, ⟨8, some (.signaled 11)⟩])) ∧
    forked (calls events) = [7, 8] ∧ deaths 7 events = [.exits 3] ∧
    deaths 8 events = [.killed 11 (by decide) (by decide) true] := by
  let dumped : Termination := .killed 11 (by decide) (by decide) true
  have hproducer : ExitStatus.exited 3 = .ofRaw (Termination.exits 3).word :=
    (ExitStatus.ofRaw_word (.exits 3)).symm
  have hconsumer : ExitStatus.signaled 11 = .ofRaw dumped.word :=
    (ExitStatus.ofRaw_word dumped).symm
  rw [hproducer, hconsumer]
  have hok : ∀ raw : UInt32, (.ok raw : Except Errno UInt32) ≠ .error .interrupted :=
    fun _ h => by cases h
  have hinterrupted : ∀ {k : Census} {pid : Nat},
      Happens k (.call (.wait pid (.error .interrupted))) k :=
    .other rfl fun _ _ => by simp [Call.waits]
  exact ⟨[.call (.pipe (.ok (3, 4))), .call (.fork _ (.ok 7)), .call (.log _),
      .call (.fork _ (.ok 8)), .call (.log _), .death 8 dumped, .call (.close 3), .call (.close 4),
      .call (.wait 7 (.error .interrupted)), .death 7 (.exits 3),
      .call (.wait 7 (.ok (Termination.exits 3).word)), .call (.log _),
      .call (.wait 8 (.error .interrupted)), .call (.wait 8 (.ok dumped.word)), .call (.log _)],
    _,
    .cons (.aside rfl rfl) <| .cons (.born rfl) <| .cons (.aside rfl rfl) <|
      .cons (.born rfl) <| .cons (.aside rfl rfl) <| .cons (.died rfl) <|
      .cons (.aside rfl rfl) <| .cons (.aside rfl rfl) <| .cons hinterrupted <|
      .cons (.died rfl) <| .cons (.reaped rfl) <| .cons (.aside rfl rfl) <| .cons hinterrupted <|
      .cons (.reaped rfl) <| .cons (.aside rfl rfl) .nil,
    .step (.pipe _) <| .step (.fork _) <| .step .log <| .step (.fork _) <| .step .log <|
      .step .close <| .step .close <| .step .interrupted <| .step (.wait _ (hok _)) <| .step .log <|
      .step .interrupted <| .step (.wait _ (hok _)) <| .step .log .refl,
    rfl, rfl, rfl⟩

theorem launch_statuses_consumerFirst : ∃ events k' n a m b,
    Course (fun _ => none) events k' ∧
    (launch none (.piped ⟨["a"]⟩ ⟨["b"]⟩)).Makes (calls events)
      (.done (.ok [⟨7, some (.exited 3)⟩, ⟨8, some (.signaled 11)⟩])) ∧
    waits (calls events) = attempts n 7 a ++ attempts m 8 b ∧
    deaths 7 events = [.exits 3] ∧ deaths 8 events = [.killed 11 (by decide) (by decide) true] := by
  obtain ⟨events, k', hcourse, hmakes, hforked, h₇, h₈⟩ := makes_consumerFirst
  obtain ⟨-, hpiped, -, -⟩ := @launch_statuses none _ _ _ hcourse
  obtain ⟨-, n, a, m, b, -, -, hwaits, -⟩ := hpiped _ _ _ _ _ hmakes hforked
  exact ⟨events, k', n, a, m, b, hcourse, hmakes, hwaits, h₇, h₈⟩

end PipeShell.Launch
