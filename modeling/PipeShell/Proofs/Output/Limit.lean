import PipeShell.Proofs.Partners

/-! # Outputs with a limit

A conversation held over two outputs, one that takes everything and one that takes a number of
bytes and then fails for good (`Outlet.Takes`), the other partners being the same. The two go alike
until a text exceeds the limit; there they part, and over the second output nothing more is taken
(`compared`). -/

namespace PipeShell
open Text (utf8)

/-- The bytes that are offered to the output. -/
def Exchange.bytes : Exchange → List UInt8
  | write text _ => utf8 text
  | _ => []

def offered (trace : List Exchange) : List UInt8 := trace.flatMap Exchange.bytes

@[simp] theorem offered_nil : offered [] = [] := rfl

@[simp] theorem offered_cons {x : Exchange} {trace : List Exchange} :
    offered (x :: trace) = x.bytes ++ offered trace := rfl

@[simp] theorem offered_append {trace₁ trace₂ : List Exchange} :
    offered (trace₁ ++ trace₂) = offered trace₁ ++ offered trace₂ := List.flatMap_append

/-- An output by itself. -/
structure Outlet (ω : Type) where
  write : String → ω → Except IoError Unit × ω
  flush : ω → Except IoError Unit × ω

namespace Outlet

/-- The bytes are within the limit, if there is one. -/
def Within (limit : Option Nat) (bytes : List UInt8) : Prop := ∀ n ∈ limit, bytes.length ≤ n

/-- The bytes that are within the limit. -/
def upTo : Option Nat → List UInt8 → List UInt8
  | none, bytes => bytes
  | some n, bytes => bytes.take n

theorem within_none (bytes : List UInt8) : Within none bytes :=
  fun n hn => absurd hn (Option.not_mem_none n)

theorem upTo_eq {limit : Option Nat} {bytes : List UInt8} (h : Within limit bytes) :
    upTo limit bytes = bytes := by
  cases limit with
  | none => rfl
  | some n => exact List.take_of_length_le (h n rfl)

theorem upTo_upTo_append (limit : Option Nat) (bytes₁ bytes₂ : List UInt8) :
    upTo limit (upTo limit bytes₁ ++ bytes₂) = upTo limit (bytes₁ ++ bytes₂) := by
  cases limit with
  | none => rfl
  | some n =>
    have hleft : n - min n bytes₁.length = n - bytes₁.length := by omega
    simp [upTo, List.take_append, List.take_take, hleft]

/-- An output that takes what is within the limit. A text that exceeds it fails, but is taken in
part; a flush never fails. -/
structure Takes {ω : Type} (outlet : Outlet ω) (limit : Option Nat) (taken : ω → List UInt8)
    (Ready : ω → Prop) : Prop where
  within : ∀ w, Ready w → Within limit (taken w)
  written : ∀ text w, Ready w →
    ((outlet.write text w).1 = .ok () ↔ Within limit (taken w ++ utf8 text))
  taken_write : ∀ text w, Ready w →
    taken (outlet.write text w).2 = upTo limit (taken w ++ utf8 text)
  flushed : ∀ w, Ready w → (outlet.flush w).1 = .ok ()
  taken_flush : ∀ w, Ready w → taken (outlet.flush w).2 = taken w
  ready_write : ∀ text w, Ready w → Ready (outlet.write text w).2
  ready_flush : ∀ w, Ready w → Ready (outlet.flush w).2

end Outlet

namespace Surroundings

variable {σ ω δ : Type} (partners : Surroundings σ) (outlet : Outlet ω)

/-- The partners, with this output in place of their own. -/
def withOutlet : Surroundings (σ × ω) where
  write text s := ((outlet.write text s.2).1, s.1, (outlet.write text s.2).2)
  flush s := ((outlet.flush s.2).1, s.1, (outlet.flush s.2).2)
  readLine prompt s := ((partners.readLine prompt s.1).1, (partners.readLine prompt s.1).2, s.2)
  saveHistory s := (partners.saveHistory s.1, s.2)
  currentDir s := ((partners.currentDir s.1).1, (partners.currentDir s.1).2, s.2)
  changeDir target s := ((partners.changeDir target s.1).1, (partners.changeDir target s.1).2, s.2)
  launch command s := ((partners.launch command s.1).1, (partners.launch command s.1).2, s.2)
  interrupts s := ((partners.interrupts s.1).1, (partners.interrupts s.1).2, s.2)
  log record s := (partners.log record s.1, s.2)

/-- What is not said to the output leaves it alone. -/
theorem withOutlet_react {x : Exchange} (hx : x.isOutput = false) (s : σ × ω) :
    (partners.withOutlet outlet).react x s = (partners.react x s.1, s.2) := by
  cases x <;> first | rfl | cases hx

/-- What is said to the output leaves the other partners alone. -/
theorem withOutlet_react_fst {x : Exchange} (hx : x.isOutput = true) (s : σ × ω) :
    ((partners.withOutlet outlet).react x s).1 = s.1 := by
  cases x <;> first | rfl | cases hx

/-- The other partners are left as what is said to them says. -/
theorem withOutlet_after_fst (trace : List Exchange) (s : σ × ω) :
    ((partners.withOutlet outlet).after trace s).1 =
      partners.after (trace.filter fun x => !x.isOutput) s.1 := by
  induction trace generalizing s with
  | nil => rfl
  | cons x trace ih =>
    rw [after_cons, ih]
    cases hx : x.isOutput with
    | true => simp [hx, withOutlet_react_fst partners outlet hx]
    | false => simp [hx, withOutlet_react partners outlet hx]

end Surroundings

/-- A view of the other partners does not see the output. -/
theorem Interaction.MovesOnly.withOutlet {σ ω δ : Type} {partners : Surroundings σ} {view : σ → δ}
    (hview : MovesOnly partners view) (outlet : Outlet ω) :
    MovesOnly (partners.withOutlet outlet) fun s => view s.1 where
  write _ _ := rfl
  flush _ := rfl
  readLine prompt s := hview.readLine prompt s.1
  saveHistory s := hview.saveHistory s.1
  currentDir s := hview.currentDir s.1
  changeDir target s e h := hview.changeDir target s.1 e h
  launch command s := hview.launch command s.1
  interrupts s := hview.interrupts s.1
  log record s := hview.log record s.1

/-! ## What is taken -/

section
open Interaction Outlet

variable {α σ ω : Type} {partners : Surroundings σ} {outlet : Outlet ω} {limit : Option Nat}
  {taken : ω → List UInt8} {Ready : ω → Prop}

namespace Outlet.Takes

theorem ready_react (htakes : outlet.Takes limit taken Ready) (x : Exchange) {s : σ × ω}
    (h : Ready s.2) : Ready ((partners.withOutlet outlet).react x s).2 := by
  cases x with
  | write text => exact htakes.ready_write text s.2 h
  | flush => exact htakes.ready_flush s.2 h
  | _ => exact h

theorem taken_react (htakes : outlet.Takes limit taken Ready) (x : Exchange) {s : σ × ω}
    (h : Ready s.2) :
    taken ((partners.withOutlet outlet).react x s).2 = upTo limit (taken s.2 ++ x.bytes) := by
  have hsame : upTo limit (taken s.2 ++ []) = taken s.2 := by
    rw [List.append_nil, upTo_eq (htakes.within s.2 h)]
  cases x with
  | write text => exact htakes.taken_write text s.2 h
  | flush => exact (htakes.taken_flush s.2 h).trans hsame.symm
  | _ => exact hsame.symm

/-- What is taken is what has been offered, up to the limit. -/
theorem taken_after (htakes : outlet.Takes limit taken Ready) (trace : List Exchange) {s : σ × ω}
    (h : Ready s.2) :
    taken ((partners.withOutlet outlet).after trace s).2 =
      upTo limit (taken s.2 ++ offered trace) := by
  induction trace generalizing s with
  | nil => simp [upTo_eq (htakes.within s.2 h)]
  | cons x trace ih =>
    rw [Surroundings.after_cons, ih (htakes.ready_react x h), htakes.taken_react x h,
      upTo_upTo_append, offered_cons, List.append_assoc]

theorem ready_after (htakes : outlet.Takes limit taken Ready) (trace : List Exchange) {s : σ × ω}
    (h : Ready s.2) : Ready ((partners.withOutlet outlet).after trace s).2 := by
  induction trace generalizing s with
  | nil => exact h
  | cons x trace ih => exact ih (htakes.ready_react x h)

theorem taken_run (htakes : outlet.Takes limit taken Ready) (p : Interaction α) {s : σ × ω}
    (h : Ready s.2) :
    taken (p.run (partners.withOutlet outlet) s).2.2 =
      upTo limit (taken s.2 ++ offered (p.transcript (partners.withOutlet outlet) s)) := by
  rw [run_eq_after, htakes.taken_after _ h]

theorem ready_run (htakes : outlet.Takes limit taken Ready) (p : Interaction α) {s : σ × ω}
    (h : Ready s.2) : Ready (p.run (partners.withOutlet outlet) s).2.2 := by
  rw [run_eq_after]
  exact htakes.ready_after _ h

end Outlet.Takes
end

/-! ## Two outputs -/

/-- How a conversation goes over an output that takes everything, and over one that takes `limit`
bytes, of which it has taken some: in the same way, or they part at the text that exceeds the limit,
and no other text is taken. -/
inductive Compared (limit : Nat) (before : List UInt8) : List Exchange → List Exchange → Prop
  | same {trace} : (before ++ offered trace).length ≤ limit → Compared limit before trace trace
  | parted {told text e later rest} : Unfailing Exchange.failure told →
    (before ++ offered told).length ≤ limit →
    limit < (before ++ offered told ++ utf8 text).length →
    (∀ text, utf8 text ≠ [] → .write text (.ok ()) ∉ rest) →
    Compared limit before (told ++ .write text (.ok ()) :: later)
      (told ++ .write text (.error e) :: rest)

namespace Compared

variable {limit : Nat} {before : List UInt8} {x : Exchange} {full cut : List Exchange}

theorem cons (hx : x.failure = none) (h : Compared limit (before ++ x.bytes) full cut) :
    Compared limit before (x :: full) (x :: cut) := by
  have hoffered : ∀ told, before ++ offered (x :: told) = before ++ x.bytes ++ offered told := by
    intro told
    rw [offered_cons, List.append_assoc]
  cases h with
  | same hwithin =>
    refine .same ?_
    rwa [hoffered]
  | @parted told text e later rest htold hwithin hexceeds hrest =>
    rw [← hoffered] at hwithin hexceeds
    have hparted : Compared limit before ((x :: told) ++ .write text (.ok ()) :: later)
        ((x :: told) ++ .write text (.error e) :: rest) :=
      .parted (unfailing_cons.mpr ⟨hx, htold⟩) hwithin hexceeds hrest
    exact hparted

/-- The first text already exceeds the limit. -/
theorem parted_at_once {text : String} {e : IoError} {later rest : List Exchange}
    (hwithin : before.length ≤ limit) (hexceeds : limit < (before ++ utf8 text).length)
    (hrest : ∀ text, utf8 text ≠ [] → .write text (.ok ()) ∉ rest) :
    Compared limit before (.write text (.ok ()) :: later) (.write text (.error e) :: rest) := by
  have hparted : Compared limit before ([] ++ .write text (.ok ()) :: later)
      ([] ++ .write text (.error e) :: rest) :=
    .parted unfailing_nil (by simpa using hwithin) (by simpa using hexceeds) hrest
  exact hparted

/-- What offers nothing does not bring the limit closer. -/
theorem cons_of_bytes_eq_nil (hx : x.failure = none) (hbytes : x.bytes = [])
    (h : Compared limit before full cut) : Compared limit before (x :: full) (x :: cut) := by
  refine .cons hx ?_
  rwa [hbytes, List.append_nil]

end Compared

section
open Interaction Outlet

variable {α σ ω₁ ω₂ : Type} {partners : Surroundings σ} {full : Outlet ω₁} {cut : Outlet ω₂}
  {limit : Nat} {taken₁ : ω₁ → List UInt8} {taken₂ : ω₂ → List UInt8} {Ready₁ : ω₁ → Prop}
  {Ready₂ : ω₂ → Prop}

/-- Once the limit is reached, nothing more is taken. -/
theorem not_mem_of_full (hcut : cut.Takes (some limit) taken₂ Ready₂) (p : Interaction α) (s : σ)
    {w : ω₂} (h : Ready₂ w) (hfull : limit ≤ (taken₂ w).length) {text : String}
    (htext : utf8 text ≠ []) :
    .write text (.ok ()) ∉ p.transcript (partners.withOutlet cut) (s, w) := by
  have hrefused : ∀ x ∈ p.transcript (partners.withOutlet cut) (s, w),
      x ≠ .write text (.ok ()) := by
    refine forall_mem_transcript (fun s => Ready₂ s.2 ∧ limit ≤ (taken₂ s.2).length) ?_ ?_ p
      ⟨h, hfull⟩
    · rintro x s ⟨hready, hfull⟩
      refine ⟨hcut.ready_react x hready, ?_⟩
      rw [hcut.taken_react x hready, upTo, List.length_take, List.length_append]
      omega
    · rintro x s ⟨hready, hfull⟩ hanswer rfl
      have hwithin := (hcut.written text s.2 hready).mp hanswer.symm limit rfl
      rw [List.length_append] at hwithin
      exact htext (List.length_eq_zero_iff.mp (by omega))
  exact fun hmem => hrefused _ hmem rfl

/-- The two conversations go alike as long as everything is within the limit. -/
theorem compared (hfull : full.Takes none taken₁ Ready₁)
    (hcut : cut.Takes (some limit) taken₂ Ready₂)
    (p : Interaction α) (s : σ) {w₁ : ω₁} {w₂ : ω₂} (h₁ : Ready₁ w₁) (h₂ : Ready₂ w₂)
    (htaken : taken₁ w₁ = taken₂ w₂) :
    Compared limit (taken₁ w₁) (p.transcript (partners.withOutlet full) (s, w₁))
      (p.transcript (partners.withOutlet cut) (s, w₂)) := by
  have hbefore : (taken₁ w₁).length ≤ limit := htaken ▸ hcut.within w₂ h₂ limit rfl
  induction p generalizing s w₁ w₂ with
  | done value =>
    refine .same ?_
    simpa [transcript] using hbefore
  | write text next ih =>
    have hok : (full.write text w₁).1 = .ok () :=
      (hfull.written text w₁ h₁).mpr (within_none _)
    have hnext : taken₁ (full.write text w₁).2 = taken₁ w₁ ++ utf8 text :=
      hfull.taken_write text w₁ h₁
    have hanswer := hcut.written text w₂ h₂
    have hnext₂ := hcut.taken_write text w₂ h₂
    rw [← htaken] at hanswer hnext₂
    simp only [transcript, Surroundings.withOutlet, hok]
    by_cases hwithin : (taken₁ w₁ ++ utf8 text).length ≤ limit
    · have hlimit : Within (some limit) (taken₁ w₁ ++ utf8 text) := by
        rintro n ⟨rfl⟩
        exact hwithin
      rw [upTo_eq hlimit, ← hnext] at hnext₂
      have hrest := ih (.ok ()) s (hfull.ready_write text w₁ h₁) (hcut.ready_write text w₂ h₂)
        hnext₂.symm (hnext ▸ hwithin)
      rw [hnext] at hrest
      rw [hanswer.mpr hlimit]
      exact .cons rfl hrest
    · cases hrefused : (cut.write text w₂).1 with
      | ok => exact (hwithin (hanswer.mp hrefused limit rfl)).elim
      | error e =>
        refine .parted_at_once hbefore (Nat.lt_of_not_le hwithin) fun text htext => ?_
        refine not_mem_of_full hcut _ _ (hcut.ready_write _ w₂ h₂) ?_ htext
        rw [hnext₂, upTo, List.length_take]
        exact Nat.le_min.mpr ⟨Nat.le_refl _, Nat.le_of_not_le hwithin⟩
  | flush next ih =>
    simp only [transcript, Surroundings.withOutlet, hfull.flushed w₁ h₁, hcut.flushed w₂ h₂]
    have htaken₁ := hfull.taken_flush w₁ h₁
    have hrest := ih (.ok ()) s (hfull.ready_flush w₁ h₁) (hcut.ready_flush w₂ h₂)
      (by rw [htaken₁, hcut.taken_flush w₂ h₂, htaken]) (htaken₁ ▸ hbefore)
    rw [htaken₁] at hrest
    exact .cons_of_bytes_eq_nil rfl rfl hrest
  | readLine _ next ih | currentDir next ih | changeDir _ next ih | launch _ next ih
  | interrupts next ih =>
    exact .cons_of_bytes_eq_nil rfl rfl (ih _ _ h₁ h₂ htaken hbefore)
  | saveHistory next ih | log _ next ih =>
    exact .cons_of_bytes_eq_nil rfl rfl (ih _ h₁ h₂ htaken hbefore)

/-- Where the same is said over both outputs, the conversations end alike. -/
theorem exists_run_eq {p : Interaction α} {s : σ} {w₁ : ω₁} {w₂ : ω₂}
    (h : p.transcript (partners.withOutlet full) (s, w₁) =
      p.transcript (partners.withOutlet cut) (s, w₂)) :
    ∃ value s' w₁' w₂', p.run (partners.withOutlet full) (s, w₁) = (value, s', w₁') ∧
      p.run (partners.withOutlet cut) (s, w₂) = (value, s', w₂') := by
  have hvalue : (p.run (partners.withOutlet full) (s, w₁)).1 =
      (p.run (partners.withOutlet cut) (s, w₂)).1 := by
    have hheld := holds_transcript (partners.withOutlet full) p (s, w₁)
    rw [h] at hheld
    exact hheld.unique (holds_transcript _ p (s, w₂))
  have hleft : (p.run (partners.withOutlet full) (s, w₁)).2.1 =
      (p.run (partners.withOutlet cut) (s, w₂)).2.1 := by
    rw [run_eq_after, run_eq_after, Surroundings.withOutlet_after_fst,
      Surroundings.withOutlet_after_fst, h]
  exact ⟨_, _, _, _, rfl, Prod.ext hvalue.symm (Prod.ext hleft.symm rfl)⟩

/-- Where the same is said and all of it is within the limit, both outputs have taken the same. -/
theorem exists_run_of_within (hfull : full.Takes none taken₁ Ready₁)
    (hcut : cut.Takes (some limit) taken₂ Ready₂) {p : Interaction α} {s : σ} {w₁ : ω₁} {w₂ : ω₂}
    (h₁ : Ready₁ w₁) (h₂ : Ready₂ w₂) (htaken : taken₁ w₁ = taken₂ w₂)
    (h : p.transcript (partners.withOutlet full) (s, w₁) =
      p.transcript (partners.withOutlet cut) (s, w₂))
    (hwithin : (taken₁ w₁ ++
      offered (p.transcript (partners.withOutlet full) (s, w₁))).length ≤ limit) :
    ∃ value s' w₁' w₂', p.run (partners.withOutlet full) (s, w₁) = (value, s', w₁') ∧
      p.run (partners.withOutlet cut) (s, w₂) = (value, s', w₂') ∧ Ready₁ w₁' ∧ Ready₂ w₂' ∧
      taken₁ w₁' = taken₂ w₂' := by
  obtain ⟨value, s', w₁', w₂', hrun₁, hrun₂⟩ := exists_run_eq h
  have hready₁ : Ready₁ (p.run (partners.withOutlet full) (s, w₁)).2.2 := hfull.ready_run p h₁
  have hready₂ : Ready₂ (p.run (partners.withOutlet cut) (s, w₂)).2.2 := hcut.ready_run p h₂
  have hend : taken₁ (p.run (partners.withOutlet full) (s, w₁)).2.2 =
      taken₂ (p.run (partners.withOutlet cut) (s, w₂)).2.2 := by
    have hlimit : Within (some limit)
        (taken₁ w₁ ++ offered (p.transcript (partners.withOutlet full) (s, w₁))) := by
      rintro n ⟨rfl⟩
      exact hwithin
    rw [hfull.taken_run p h₁, hcut.taken_run p h₂, ← h, ← htaken, upTo_eq hlimit]
    rfl
  rw [hrun₁] at hready₁ hend
  rw [hrun₂] at hready₂ hend
  exact ⟨value, s', w₁', w₂', hrun₁, hrun₂, hready₁, hready₂, hend⟩

end

end PipeShell
