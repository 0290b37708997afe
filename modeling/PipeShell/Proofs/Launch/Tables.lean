import PipeShell.Proofs.Launch.Ledger

/-! # The launcher's table

What the calls do to the descriptors of the launcher itself. A new pipe takes two descriptors that
are free, as the kernel promises; creating a child and waiting for one leave the table alone. Calls
that are in order keep the table at what the ledger says: the one at the start, and the ends that
are held (`Ledger.Sound.effect`). -/

namespace PipeShell.Launch

/-- What a call does to the table of its caller. A pipe that is made gets the number `n`. -/
inductive Effect (n : Nat) : Table → Call → Table → Prop
  | pipe {t readEnd writeEnd} : t readEnd = none → t writeEnd = none → readEnd ≠ writeEnd →
    Effect n t (.pipe (.ok (readEnd, writeEnd)))
      ((t.set readEnd (some ⟨.readEnd n, true⟩)).set writeEnd (some ⟨.writeEnd n, true⟩))
  | close {t fd} : Effect n t (.close fd) (t.close fd)
  | other {t c} : c.made = [] → c.closed = [] → Effect n t c t

/-- What a list of calls does to the table. -/
inductive Effects : Table → List Call → Table → Prop
  | nil {t} : Effects t [] t
  | cons {t c t' calls t''} (n : Nat) : Effect n t c t' → Effects t' calls t'' →
    Effects t (c :: calls) t''

theorem Effects.append_inv {t t'' : Table} {calls₁ calls₂ : List Call}
    (h : Effects t (calls₁ ++ calls₂) t'') : ∃ t', Effects t calls₁ t' ∧ Effects t' calls₂ t'' := by
  induction calls₁ generalizing t with
  | nil => exact ⟨t, .nil, h⟩
  | cons c calls₁ ih =>
    obtain _ | ⟨n, heffect, h⟩ := h
    obtain ⟨t', h₁, h₂⟩ := ih h
    exact ⟨t', .cons n heffect h₁, h₂⟩

namespace Ledger

variable {output : Option Fd} {l : Ledger} {c : Call} {start t t' : Table} {n m : Nat}

/-- The ends that are held are the last ones of a pipe whose ends were free at the start. -/
def Sound (start : Table) (l : Ledger) : Prop :=
  match l.pipe with
  | none => l.held = []
  | some (readEnd, writeEnd) => readEnd ≠ writeEnd ∧ start readEnd = none ∧
    start writeEnd = none ∧ l.held <:+ [readEnd, writeEnd]

/-- The table with the ends that are held, those of the pipe with the number `n`. -/
def table (l : Ledger) (n : Nat) (start : Table) : Table :=
  match l.pipe with
  | none => start
  | some (readEnd, _) => fun fd =>
    if fd ∈ l.held then some ⟨if fd = readEnd then .readEnd n else .writeEnd n, true⟩
    else start fd

theorem table_of_held_eq_nil (h : l.held = []) : l.table n start = start := by
  unfold table
  cases l.pipe with
  | none => rfl
  | some pipe => funext fd; simp [h]

/-- Calls that open and close nothing leave the held ends alone. -/
theorem after_of_other (hmade : c.made = []) (hclosed : c.closed = []) :
    (l.after c).pipe = l.pipe ∧ (l.after c).held = l.held := by
  cases c with
  | pipe answer =>
    cases answer with
    | error e => exact ⟨rfl, rfl⟩
    | ok ends => cases hmade
  | fork plan answer => cases answer <;> exact ⟨rfl, rfl⟩
  | close fd => cases hclosed
  | wait pid answer =>
    rcases answer with e | raw
    · unfold after; dsimp only; split <;> exact ⟨rfl, rfl⟩
    · exact ⟨rfl, rfl⟩
  | log record => exact ⟨rfl, rfl⟩

theorem sound_congr {l' : Ledger} (hpipe : l'.pipe = l.pipe) (hheld : l'.held = l.held) :
    l'.Sound start ↔ l.Sound start := by simp only [Sound, hpipe, hheld]

theorem table_congr {l' : Ledger} (hpipe : l'.pipe = l.pipe) (hheld : l'.held = l.held) :
    l'.table n start = l.table n start := by simp only [table, hpipe, hheld]

theorem after_pipe (hheld : l.held = []) (readEnd writeEnd : Fd) :
    (l.after (.pipe (.ok (readEnd, writeEnd)))).pipe = some (readEnd, writeEnd) ∧
      (l.after (.pipe (.ok (readEnd, writeEnd)))).held = [readEnd, writeEnd] := by
  simp [after, hheld]

namespace Sound

theorem held_eq_nil (h : l.Sound start) (hpipe : l.pipe = none) : l.held = [] := by
  unfold Sound at h
  rwa [hpipe] at h

theorem close {fd : Fd} (h : l.Sound start) (hhead : l.held.head? = some fd) :
    (l.after (.close fd)).Sound start ∧
      (l.table n start).close fd = (l.after (.close fd)).table n start := by
  obtain ⟨rest, hheld⟩ := List.head?_eq_some_iff.mp hhead
  cases hpipe : l.pipe with
  | none => simp [h.held_eq_nil hpipe] at hheld
  | some ends =>
    obtain ⟨readEnd, writeEnd⟩ := ends
    simp only [Sound, hpipe, hheld] at h
    obtain ⟨hne, hread, hwrite, hsuffix⟩ := h
    have hafter : (l.after (.close fd)).held = rest := by simp [after, hheld]
    have hpipe' : (l.after (.close fd)).pipe = some (readEnd, writeEnd) := hpipe
    have hfree : start fd = none := by
      have hmem : fd = readEnd ∨ fd = writeEnd := by simpa using hsuffix.subset (.head rest)
      rcases hmem with rfl | rfl <;> assumption
    have hnodup : (fd :: rest).Nodup := hsuffix.sublist.nodup (by simpa using hne)
    refine ⟨?_, ?_⟩
    · simp only [Sound, hpipe', hafter]
      exact ⟨hne, hread, hwrite, (List.suffix_cons fd rest).trans hsuffix⟩
    · funext other
      simp only [table, hpipe, hpipe', hheld, hafter, Table.close, Table.set]
      by_cases hother : other = fd
      · subst hother; simp [(List.nodup_cons.mp hnodup).1, hfree]
      · simp [hother]

/-- The table follows the ledger. -/
theorem effect (h : l.Sound start) (hallows : l.Allows output c)
    (heffect : Effect m (l.table n start) c t') :
    (l.after c).Sound start ∧ ∃ k, t' = (l.after c).table k start ∧ (m = n → k = n) := by
  generalize ht : l.table n start = t at heffect
  cases heffect with
  | @pipe readEnd writeEnd hread hwrite hne =>
    have hheld := h.held_eq_nil hallows.2
    obtain rfl : start = t := by rw [← ht, table_of_held_eq_nil hheld]
    obtain ⟨hpipe', hheld'⟩ := after_pipe hheld readEnd writeEnd
    refine ⟨?_, m, ?_, id⟩
    · simp only [Sound, hpipe', hheld']
      exact ⟨hne, hread, hwrite, List.suffix_refl _⟩
    · funext fd
      simp only [table, hpipe', hheld', Table.set, List.mem_cons, List.not_mem_nil, or_false]
      by_cases hw : fd = writeEnd
      · subst hw; simp [hne.symm]
      · by_cases hr : fd = readEnd <;> simp [hw, hr, hne]
  | @close fd =>
    obtain ⟨hsound, htable⟩ := h.close (n := n) hallows
    exact ⟨hsound, n, by rw [← htable, ht], fun _ => rfl⟩
  | other hmade hclosed =>
    obtain ⟨hpipe', hheld'⟩ := after_of_other (l := l) hmade hclosed
    exact ⟨(sound_congr hpipe' hheld').mpr h, n, by rw [table_congr hpipe' hheld', ht],
      fun _ => rfl⟩

end Sound
end Ledger
end PipeShell.Launch
