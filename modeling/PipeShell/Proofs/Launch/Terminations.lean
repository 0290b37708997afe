import PipeShell.Proofs.Launch.Ledger

/-! # Children that terminate

A child runs until it exits or is killed, at any time and whatever the launcher is about. How it
ended is kept until it is waited for: a wait that succeeds takes the status word of the child that it
names, and the number is free again (`Happens`). The word tells how the child ended
(`ofRaw_word`), and it is the word of the one death that the child has died since it was created
(`Course.reaped`). -/

namespace PipeShell

/-- How a process terminates. A signal may leave a core dump behind. -/
inductive Termination where
  | exits (code : Fin 256)
  | killed (signal : Nat) (positive : 0 < signal) (small : signal < 127) (dumped : Bool)

namespace Termination

/-- The word that a wait reports: the code is its second byte; a signal is in its low seven bits,
and the bit above them is set if there is a core dump. -/
def word : Termination → UInt32
  | exits code => .ofNat (256 * code)
  | killed signal _ _ dumped => .ofNat (signal + if dumped then 128 else 0)

def status : Termination → ExitStatus
  | exits code => .exited code
  | killed signal .. => .signaled signal

end Termination

namespace ExitStatus

theorem ofRaw_eq (raw : UInt32) :
    ofRaw raw = if raw.toNat % 128 = 0 ∨ raw.toNat % 128 = 127 then
        exited (raw.toNat / 256 % 256 : Nat)
      else signaled (raw.toNat % 128 : Nat) := by
  have hlow : (raw &&& 0x7F).toNat = raw.toNat % 128 := by
    rw [UInt32.toNat_and]
    exact Nat.and_two_pow_sub_one_eq_mod raw.toNat 7
  have hcode : ((raw >>> 8) &&& 0xFF).toNat = raw.toNat / 256 % 256 := by
    rw [UInt32.toNat_and, UInt32.toNat_shiftRight, Nat.shiftRight_eq_div_pow]
    exact Nat.and_two_pow_sub_one_eq_mod _ 8
  simp only [ofRaw, hlow, hcode, ← UInt32.toNat_inj]
  rfl

/-- The word of a termination is read back. -/
theorem ofRaw_word (t : Termination) : ofRaw t.word = t.status := by
  cases t with
  | exits code =>
    have hword : (Termination.exits code).word.toNat = 256 * code := by
      simp [Termination.word]
      omega
    have hlow : 256 * code.val % 128 = 0 := by omega
    have hcode : 256 * code.val / 256 % 256 = code := by omega
    rw [ofRaw_eq, hword, hlow, hcode, if_pos (.inl rfl)]
    rfl
  | killed signal positive small dumped =>
    have hword : (Termination.killed signal positive small dumped).word.toNat % 128 = signal := by
      cases dumped <;> simp [Termination.word] <;> omega
    have hneither : ¬ (signal = 0 ∨ signal = 127) := by omega
    rw [ofRaw_eq, hword, if_neg hneither]
    rfl

end ExitStatus

namespace Launch

/-- A child until it has been waited for. -/
inductive Life where
  | running
  | dead (t : Termination)

/-- The children that are there to be waited for, by their numbers. -/
abbrev Census := Nat → Option Life

namespace Census

def set (k : Census) (pid : Nat) (life : Option Life) : Census :=
  fun other => if other = pid then life else k other

/-- How the child ended, if it has and has not been waited for. -/
def ended (k : Census) (pid : Nat) : List Termination :=
  match k pid with
  | some (.dead t) => [t]
  | _ => []

variable {k : Census} {pid other : Nat} {life : Option Life}

@[simp] theorem set_self : k.set pid life pid = life := if_pos rfl

theorem set_of_ne (h : other ≠ pid) : k.set pid life other = k other := if_neg h

theorem ended_of_none (h : k pid = none) : k.ended pid = [] := by rw [ended, h]

theorem ended_of_running (h : k pid = some .running) : k.ended pid = [] := by rw [ended, h]

theorem ended_of_dead {t : Termination} (h : k pid = some (.dead t)) : k.ended pid = [t] := by
  rw [ended, h]

theorem ended_set_of_ne (h : other ≠ pid) : (k.set pid life).ended other = k.ended other := by
  rw [ended, ended, set_of_ne h]

end Census

/-- What happens while the launcher is at work: a call of its, or the death of a child. -/
inductive Event where
  | call (c : Call)
  | death (pid : Nat) (t : Termination)

namespace Event

def call? : Event → Option Call
  | call c => some c
  | death .. => none

/-- How the event ends the child. -/
def deathOf (pid : Nat) : Event → Option Termination
  | death other t => if other = pid then some t else none
  | call _ => none

end Event

def calls (events : List Event) : List Call := events.filterMap Event.call?

/-- The deaths of one child. -/
def deaths (pid : Nat) (events : List Event) : List Termination :=
  events.filterMap (Event.deathOf pid)

section
variable (pid : Nat) (events events₁ events₂ : List Event)

@[simp] theorem calls_call (c : Call) : calls (.call c :: events) = c :: calls events := rfl
@[simp] theorem deaths_call (c : Call) : deaths pid (.call c :: events) = deaths pid events := rfl
@[simp] theorem deaths_death (t : Termination) :
    deaths pid (.death pid t :: events) = t :: deaths pid events := by
  simp [deaths, Event.deathOf]
@[simp] theorem deaths_append : deaths pid (events₁ ++ events₂) =
    deaths pid events₁ ++ deaths pid events₂ := List.filterMap_append

theorem deaths_of_ne {other : Nat} {t : Termination} (h : other ≠ pid) :
    deaths pid (.death other t :: events) = deaths pid events := by
  simp [deaths, Event.deathOf, h]

end

/-- No wait has brought a status. -/
def NoneReaped (calls : List Call) : Prop := ∀ pid raw, (pid, .ok raw) ∉ waits calls

theorem NoneReaped.tail {c : Call} {calls : List Call} (h : NoneReaped (c :: calls)) :
    NoneReaped calls := fun pid raw hwaits =>
  h pid raw (by rw [waits_cons]; exact List.mem_append_right _ hwaits)

/-- What one event does to the children. A child gets a number that is free; a wait brings a status
only if the child is dead; all other calls leave the children alone, failed waits among them. -/
inductive Happens : Census → Event → Census → Prop
  | born {k plan pid} : k pid = none →
    Happens k (.call (.fork plan (.ok pid))) (k.set pid (some .running))
  | died {k pid t} : k pid = some .running → Happens k (.death pid t) (k.set pid (some (.dead t)))
  | reaped {k pid t} : k pid = some (.dead t) →
    Happens k (.call (.wait pid (.ok t.word))) (k.set pid none)
  | other {k c} : c.forked = [] → NoneReaped [c] → Happens k (.call c) k

/-- A call that neither creates a child nor waits for one. -/
theorem Happens.aside {k : Census} {c : Call} (hforked : c.forked = []) (hwaits : c.waits = []) :
    Happens k (.call c) k :=
  .other hforked fun _ _ => by simp [hwaits]

/-- What a list of events does to the children. -/
inductive Course : Census → List Event → Census → Prop
  | nil {k} : Course k [] k
  | cons {k e k' events k''} : Happens k e k' → Course k' events k'' → Course k (e :: events) k''

namespace Course

variable {k k' : Census} {events events₁ events₂ : List Event} {pid : Nat} {raw : UInt32}

theorem append_inv (h : Course k (events₁ ++ events₂) k') :
    ∃ m, Course k events₁ m ∧ Course m events₂ k' := by
  induction events₁ generalizing k with
  | nil => exact ⟨k, .nil, h⟩
  | cons e events₁ ih =>
    obtain _ | ⟨hhappens, h⟩ := h
    obtain ⟨m, h₁, h₂⟩ := ih h
    exact ⟨m, .cons hhappens h₁, h₂⟩

/-- Who is not there, and is not created, does not die. -/
theorem deaths_eq_nil (h : Course k events k') (hnone : k pid = none)
    (hforked : pid ∉ forked (calls events)) : deaths pid events = [] := by
  induction h with
  | nil => rfl
  | @cons k e k₁ events k' hhappens _ ih =>
    cases hhappens with
    | @born plan other hfree =>
      have hne : pid ≠ other := fun h => hforked (by simp [h, Call.forked])
      exact ih (by rwa [Census.set_of_ne hne]) fun h => hforked (by simp [h])
    | @died other t hruns =>
      have hne : pid ≠ other := by
        rintro rfl
        cases hnone.symm.trans hruns
      rw [deaths_of_ne _ _ hne.symm]
      exact ih (by rwa [Census.set_of_ne hne]) hforked
    | @reaped other t hdead =>
      have hne : pid ≠ other := by
        rintro rfl
        cases hnone.symm.trans hdead
      exact ih (by rwa [Census.set_of_ne hne]) hforked
    | other => exact ih hnone fun h => hforked (by simp [h])

/-- As long as no wait brings a status, each death is one that is kept. -/
theorem ended_eq (h : Course k events k') (hnone : NoneReaped (calls events)) (pid : Nat) :
    k.ended pid ++ deaths pid events = k'.ended pid := by
  induction h with
  | nil => exact List.append_nil _
  | @cons k e k₁ events k' hhappens _ ih =>
    cases hhappens with
    | @born plan other hfree =>
      rw [deaths_call, ← ih hnone.tail]
      by_cases hpid : pid = other
      · subst hpid
        rw [Census.ended_of_none hfree, Census.ended_of_running Census.set_self]
      · rw [Census.ended_set_of_ne hpid]
    | @died other t hruns =>
      rw [← ih hnone]
      by_cases hpid : pid = other
      · subst hpid
        rw [deaths_death, Census.ended_of_running hruns, Census.ended_of_dead Census.set_self]
        rfl
      · rw [Census.ended_set_of_ne hpid, deaths_of_ne _ _ (Ne.symm hpid)]
    | @reaped other t => exact (hnone other t.word (by simp [Call.waits])).elim
    | other => exact ih hnone.tail

/-- As long as no wait brings a status, a child gets a number that has been free from the start. -/
theorem free_of_forked (h : Course k events k') (hnone : NoneReaped (calls events))
    (hforked : pid ∈ forked (calls events)) : k pid = none := by
  induction h with
  | nil => cases hforked
  | @cons k e k₁ events k' hhappens _ ih =>
    cases hhappens with
    | @born plan other hfree =>
      by_cases hpid : pid = other
      · exact hpid ▸ hfree
      · have hlater : pid ∈ forked (calls events) := by
          simpa [Call.forked, hpid] using hforked
        have hset := ih hnone.tail hlater
        rwa [Census.set_of_ne hpid] at hset
    | @died other t hruns =>
      have hset := ih hnone hforked
      by_cases hpid : pid = other
      · rw [hpid, Census.set_self] at hset
        cases hset
      · rwa [Census.set_of_ne hpid] at hset
    | @reaped other t => exact (hnone other t.word (by simp [Call.waits])).elim
    | other hno =>
      exact ih hnone.tail (by simpa [hno] using hforked)

/-- As long as no wait brings a status, no two children have the same number. -/
theorem nodup_forked (h : Course k events k') (hnone : NoneReaped (calls events)) :
    (forked (calls events)).Nodup := by
  induction h with
  | nil => exact .nil
  | @cons k e k₁ events k' hhappens hcourse ih =>
    cases hhappens with
    | @born plan other hfree =>
      have hrest := hnone.tail
      refine List.nodup_cons.mpr ⟨fun hagain => ?_, ih hrest⟩
      have htaken := hcourse.free_of_forked hrest hagain
      rw [Census.set_self] at htaken
      cases htaken
    | died => exact ih hnone
    | @reaped other t => exact (hnone other t.word (by simp [Call.waits])).elim
    | other hno =>
      simpa [hno] using ih hnone.tail

/-- A wait that succeeds brings the word of the one death of the child. -/
theorem reaped (h : Course k events k') (hforked : pid ∉ forked (calls events))
    (hwaits : (pid, .ok raw) ∈ waits (calls events)) :
    ∃ t, raw = t.word ∧ k.ended pid ++ deaths pid events = [t] := by
  induction h with
  | nil => cases hwaits
  | @cons k e k₁ events k' hhappens hcourse ih =>
    cases hhappens with
    | @born plan other hfree =>
      have hne : pid ≠ other := fun h => hforked (by simp [h, Call.forked])
      obtain ⟨t, hraw, hdeaths⟩ := ih (fun h => hforked (by simp [h])) hwaits
      rw [Census.ended_set_of_ne hne] at hdeaths
      exact ⟨t, hraw, hdeaths⟩
    | @died other t hruns =>
      obtain ⟨t', hraw, hdeaths⟩ := ih hforked hwaits
      refine ⟨t', hraw, ?_⟩
      by_cases hpid : pid = other
      · subst hpid
        rw [Census.ended_of_dead Census.set_self] at hdeaths
        rw [deaths_death, Census.ended_of_running hruns]
        exact hdeaths
      · rw [Census.ended_set_of_ne hpid] at hdeaths
        rw [deaths_of_ne _ _ (Ne.symm hpid)]
        exact hdeaths
    | @reaped other t hdead =>
      by_cases hpid : pid = other
      · subst hpid
        -- The number is free now, so that no later wait for it can succeed.
        have hlater : deaths pid events = [] := hcourse.deaths_eq_nil Census.set_self hforked
        have hraw : raw = t.word := by
          rcases List.mem_cons.mp hwaits with heq | hagain
          · simpa using heq
          · obtain ⟨t', -, hdeaths⟩ := ih hforked hagain
            rw [Census.ended_of_none Census.set_self, hlater] at hdeaths
            cases hdeaths
        exact ⟨t, hraw, by rw [deaths_call, hlater, Census.ended_of_dead hdead]; rfl⟩
      · have hlater : (pid, .ok raw) ∈ waits (calls events) := by
          simpa [Call.waits, hpid] using hwaits
        obtain ⟨t', hraw, hdeaths⟩ := ih hforked hlater
        rw [Census.ended_set_of_ne hpid] at hdeaths
        exact ⟨t', hraw, hdeaths⟩
    | @other c hno hnone =>
      have hlater : (pid, .ok raw) ∈ waits (calls events) := by
        rw [calls_call, waits_cons, List.mem_append] at hwaits
        exact hwaits.resolve_left fun h => hnone pid raw (by simpa using h)
      exact ih (fun h => hforked (by simp [h])) hlater

end Course
end Launch
end PipeShell
