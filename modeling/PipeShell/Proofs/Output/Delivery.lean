import PipeShell.Proofs.Transcript

/-! # Deliveries

How an exchange with the output comes about. A text is handed over in pieces, and a piece with as
many writes as it takes: each offers what is left of it, and never nothing. The output can accept a
part of what is offered, be interrupted, so that the write is made again, or fail. After a failure
nothing more of the text is offered. How a text is cut into pieces is left open.

Exchanges and calls both can fail, so what is said of failures is said of lists with a reading of
their elements (`Concludes`): none fails, or only the last one does. The calls behind a transcript
conclude as it does (`BehindAll.concludes`). -/

namespace PipeShell

section
variable {τ : Type} (failure : τ → Option IoError)

/-- Nothing fails. -/
def Unfailing (l : List τ) : Prop := ∀ x ∈ l, failure x = none

/-- The last element fails, with this error, and it is the only one. -/
def StopsWith (l : List τ) (e : IoError) : Prop :=
  ∃ before x, l = before ++ [x] ∧ Unfailing failure before ∧ failure x = some e

/-- Nothing fails, or the list stops with this error. -/
def Concludes (l : List τ) : Option IoError → Prop
  | none => Unfailing failure l
  | some e => StopsWith failure l e

end

/-- The failure that a result is, if it is one. -/
def failureOf {α : Type} : Except IoError α → Option IoError
  | .ok _ => none
  | .error e => some e

section
variable {τ : Type} {failure : τ → Option IoError} {l l₁ l₂ : List τ} {x : τ} {e : IoError}
  {e? : Option IoError}

@[simp] theorem unfailing_nil : Unfailing failure [] := nofun

@[simp] theorem unfailing_cons :
    Unfailing failure (x :: l) ↔ failure x = none ∧ Unfailing failure l := List.forall_mem_cons

@[simp] theorem unfailing_append :
    Unfailing failure (l₁ ++ l₂) ↔ Unfailing failure l₁ ∧ Unfailing failure l₂ :=
  List.forall_mem_append

theorem StopsWith.exists_mem (h : StopsWith failure l e) : ∃ x ∈ l, failure x = some e := by
  obtain ⟨before, x, rfl, -, hx⟩ := h
  exact ⟨x, by simp, hx⟩

/-- A list that stops goes on with nothing. -/
theorem StopsWith.append_eq_nil (h₁ : StopsWith failure l₁ e) {e' : IoError}
    (h : StopsWith failure (l₁ ++ l₂) e') : l₂ = [] := by
  obtain ⟨before, x, h, hbefore, -⟩ := h
  obtain ⟨y, hy, hfails⟩ := h₁.exists_mem
  rcases List.eq_nil_or_concat l₂ with rfl | ⟨l, z, rfl⟩
  · rfl
  · rw [List.concat_eq_append, ← List.append_assoc] at h
    obtain ⟨rfl, -⟩ := List.append_inj' h rfl
    simp [hbefore y (by simp [hy])] at hfails

/-- A list fails first at one place only. -/
theorem Unfailing.first_unique {before₁ before₂ rest₁ rest₂ : List τ} {y : τ}
    (h : before₁ ++ x :: rest₁ = before₂ ++ y :: rest₂) (h₁ : Unfailing failure before₁)
    (h₂ : Unfailing failure before₂) (hx : failure x ≠ none) (hy : failure y ≠ none) :
    before₁ = before₂ ∧ x = y ∧ rest₁ = rest₂ := by
  induction before₁ generalizing before₂ with
  | nil =>
    cases before₂ with
    | nil => exact ⟨rfl, List.cons.inj h⟩
    | cons z before₂ =>
      obtain ⟨rfl, -⟩ := List.cons.inj h
      exact (hx (unfailing_cons.mp h₂).1).elim
  | cons z before₁ ih =>
    cases before₂ with
    | nil =>
      obtain ⟨rfl, -⟩ := List.cons.inj h
      exact (hy (unfailing_cons.mp h₁).1).elim
    | cons z' before₂ =>
      obtain ⟨rfl, htail⟩ := List.cons.inj h
      obtain ⟨rfl, hrest⟩ := ih htail (unfailing_cons.mp h₁).2 (unfailing_cons.mp h₂).2
      exact ⟨rfl, hrest⟩

theorem concludes_singleton : Concludes failure [x] (failure x) := by
  cases h : failure x with
  | none => exact unfailing_cons.mpr ⟨h, unfailing_nil⟩
  | some e => exact ⟨[], x, rfl, unfailing_nil, h⟩

theorem Concludes.append (h₁ : Unfailing failure l₁) (h₂ : Concludes failure l₂ e?) :
    Concludes failure (l₁ ++ l₂) e? := by
  cases e? with
  | none => exact unfailing_append.mpr ⟨h₁, h₂⟩
  | some e =>
    obtain ⟨before, x, rfl, hbefore, hx⟩ := h₂
    exact ⟨l₁ ++ before, x, by simp, unfailing_append.mpr ⟨h₁, hbefore⟩, hx⟩

theorem Concludes.cons (hx : failure x = none) (h : Concludes failure l e?) :
    Concludes failure (x :: l) e? := .append (unfailing_cons.mpr ⟨hx, unfailing_nil⟩) h

end

namespace Delivery

/-- What the output answers to a write. -/
inductive Acceptance where
  | accepted (count : Nat)
  | interrupted
  | failed (error : IoError)

/-- A call on the output. -/
inductive Call where
  | write (bytes : List UInt8) (answer : Acceptance)
  | flush (answer : Except IoError Unit)

/-- A write that accepts nothing has failed; one that was interrupted has not. -/
def Call.failure : Call → Option IoError
  | write _ (.failed e) | flush (.error e) => some e
  | write _ (.accepted 0) => some (.other "failed to write whole buffer")
  | _ => none

/-- The calls that hand over these bytes, and how it ends. -/
inductive Offers : List UInt8 → List Call → Except IoError Unit → Prop
  | done : Offers [] [] (.ok ())
  | again {bytes calls result} : bytes ≠ [] → Offers bytes calls result →
    Offers bytes (.write bytes .interrupted :: calls) result
  | accepted {bytes calls result} (count : Nat) : 0 < count → count ≤ bytes.length →
    Offers (bytes.drop count) calls result →
    Offers bytes (.write bytes (.accepted count) :: calls) result
  | failed {bytes answer e} : bytes ≠ [] → (Call.write bytes answer).failure = some e →
    Offers bytes [.write bytes answer] (.error e)

/-- The calls that hand over these pieces, and how it ends. -/
inductive Delivers : List (List UInt8) → List Call → Except IoError Unit → Prop
  | done : Delivers [] [] (.ok ())
  | piece {bytes pieces calls₁ calls₂ result} : Offers bytes calls₁ (.ok ()) →
    Delivers pieces calls₂ result → Delivers (bytes :: pieces) (calls₁ ++ calls₂) result
  | stopped {bytes pieces calls e} : Offers bytes calls (.error e) →
    Delivers (bytes :: pieces) calls (.error e)

/-- The calls on the output of which an exchange consists. -/
inductive Behind : Exchange → List Call → Prop
  | write {text answer calls} (pieces : List (List UInt8)) : pieces.flatten = Text.utf8 text →
    Delivers pieces calls answer → Behind (.write text answer) calls
  | flush {answer} : Behind (.flush answer) [.flush answer]
  | other {x} : x.isOutput = false → Behind x []

/-- The calls on the output of which a transcript consists. -/
inductive BehindAll : List Exchange → List Call → Prop
  | nil : BehindAll [] []
  | cons {x trace calls₁ calls₂} : Behind x calls₁ → BehindAll trace calls₂ →
    BehindAll (x :: trace) (calls₁ ++ calls₂)

theorem Offers.concludes {bytes : List UInt8} {calls : List Call} {result : Except IoError Unit}
    (h : Offers bytes calls result) : Concludes Call.failure calls (failureOf result) := by
  induction h with
  | done => exact unfailing_nil
  | again _ _ ih => exact ih.cons rfl
  | accepted count hpos _ _ ih =>
    obtain ⟨n, rfl⟩ := Nat.exists_eq_succ_of_ne_zero (Nat.ne_of_gt hpos)
    exact ih.cons rfl
  | failed _ h =>
    rw [failureOf, ← h]
    exact concludes_singleton

theorem Delivers.concludes {pieces : List (List UInt8)} {calls : List Call}
    {result : Except IoError Unit} (h : Delivers pieces calls result) :
    Concludes Call.failure calls (failureOf result) := by
  induction h with
  | done => exact unfailing_nil
  | piece h _ ih => exact ih.append h.concludes
  | stopped h => exact h.concludes

/-- A text that is accepted by one write. -/
theorem Behind.write_accepted {text : String} (h : Text.utf8 text ≠ []) :
    Behind (.write text (.ok ()))
      [.write (Text.utf8 text) (.accepted (Text.utf8 text).length)] := by
  have hoffers : Offers (Text.utf8 text)
      [.write (Text.utf8 text) (.accepted (Text.utf8 text).length)] (.ok ()) :=
    .accepted _ (List.length_pos_iff.mpr h) (Nat.le_refl _) (by rw [List.drop_length]; exact .done)
  exact .write [Text.utf8 text] (List.append_nil _) (.piece hoffers .done)

/-- A text of which the first write fails. -/
theorem Behind.write_failed {text : String} {e : IoError} (h : Text.utf8 text ≠ []) :
    Behind (.write text (.error e)) [.write (Text.utf8 text) (.failed e)] :=
  .write [Text.utf8 text] (List.append_nil _) (.stopped (.failed h rfl))

theorem Behind.concludes {x : Exchange} {calls : List Call} (h : Behind x calls) :
    Concludes Call.failure calls x.failure := by
  cases h with
  | @write _ answer _ _ _ h => cases answer <;> exact h.concludes
  | @flush answer => cases answer <;> exact concludes_singleton
  | other h =>
    rw [Exchange.failure_of_not_isOutput h]
    exact unfailing_nil

namespace BehindAll

variable {trace trace₁ trace₂ : List Exchange} {calls : List Call}

theorem append_inv (h : BehindAll (trace₁ ++ trace₂) calls) :
    ∃ calls₁ calls₂, calls = calls₁ ++ calls₂ ∧ BehindAll trace₁ calls₁ ∧
      BehindAll trace₂ calls₂ := by
  induction trace₁ generalizing calls with
  | nil => exact ⟨[], calls, rfl, .nil, h⟩
  | cons x trace₁ ih =>
    obtain _ | ⟨hx, h⟩ := h
    obtain ⟨calls₁, calls₂, rfl, h₁, h₂⟩ := ih h
    exact ⟨_, calls₂, (List.append_assoc ..).symm, .cons hx h₁, h₂⟩

/-- What is not said to the output makes no call on it. -/
theorem eq_nil (h : BehindAll trace calls) (ht : ∀ x ∈ trace, x.isOutput = false) : calls = [] := by
  induction h with
  | nil => rfl
  | cons hx _ ih =>
    obtain ⟨hhead, htail⟩ := List.forall_mem_cons.mp ht
    rw [ih htail]
    cases hx <;> simp_all [Exchange.isOutput]

theorem unfailing (h : BehindAll trace calls) (ht : Unfailing Exchange.failure trace) :
    Unfailing Call.failure calls := by
  induction h with
  | nil => exact unfailing_nil
  | cons hx _ ih =>
    obtain ⟨hhead, htail⟩ := unfailing_cons.mp ht
    have hcalls := hx.concludes
    rw [hhead] at hcalls
    exact unfailing_append.mpr ⟨hcalls, ih htail⟩

theorem concludes {e? : Option IoError} (h : BehindAll trace calls)
    (ht : Concludes Exchange.failure trace e?) : Concludes Call.failure calls e? := by
  cases e? with
  | none => exact h.unfailing ht
  | some e =>
    obtain ⟨before, x, rfl, hbefore, hx⟩ := ht
    obtain ⟨calls₁, _, rfl, h₁, hlast⟩ := h.append_inv
    obtain _ | ⟨hlast, _ | _⟩ := hlast
    rw [List.append_nil, ← hx]
    exact hlast.concludes.append (h₁.unfailing hbefore)

theorem stopsWith {e : IoError} (h : BehindAll trace calls)
    (ht : StopsWith Exchange.failure trace e) : StopsWith Call.failure calls e :=
  h.concludes (show Concludes Exchange.failure trace (some e) from ht)

end BehindAll
end Delivery
end PipeShell
