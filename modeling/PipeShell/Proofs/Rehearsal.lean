import PipeShell.Proofs.Output.Limit
import PipeShell.Rehearsal

/-! # Rehearsed partners

What the partners of a rehearsal are: an output that accepts everything as long as it has no budget
and takes what the budget allows otherwise, a line source that reads from the queue, and a directory
that only a change of directory touches. -/

namespace PipeShell.Rehearsal

namespace Sink
open Text (utf8)

/-- The output of a rehearsal by itself. -/
def outlet : Outlet Sink where
  write text sink := sink.write text
  flush sink := (sink.flush, sink)

/-- An output without a budget. -/
structure Unlimited (sink : Sink) : Prop where
  budget : sink.budget = none
  flushes : sink.flushFails = false

/-- An output with a budget that fails for good once it is spent. -/
structure Limited (limit : Nat) (sink : Sink) : Prop where
  within : sink.accepted.length ≤ limit
  budget : sink.budget = some (limit - sink.accepted.length)
  fails : sink.recover = false
  flushes : sink.flushFails = false

theorem Unlimited.write {sink : Sink} (h : sink.Unlimited) (text : String) :
    sink.write text = (.ok (), { sink with accepted := sink.accepted ++ utf8 text }) := by
  simp [Sink.write, h.budget]

theorem takes_everything : outlet.Takes none accepted Unlimited where
  within sink _ := Outlet.within_none sink.accepted
  written text sink h := by simp [outlet, h.write, Outlet.Within]
  taken_write text sink h := by simp [outlet, h.write, Outlet.upTo]
  flushed sink h := by simp [outlet, Sink.flush, h.flushes, pure, Except.pure]
  taken_flush _ _ := rfl
  ready_write text sink h := by
    simp only [outlet, h.write]
    exact ⟨h.budget, h.flushes⟩
  ready_flush _ h := h

/-- A text that the budget allows. -/
theorem Limited.write_of_le {limit : Nat} {sink : Sink} (h : sink.Limited limit) {text : String}
    (htext : (sink.accepted ++ utf8 text).length ≤ limit) :
    sink.write text = (.ok (), { sink with
      accepted := sink.accepted ++ utf8 text
      budget := some (limit - (sink.accepted ++ utf8 text).length) }) := by
  rw [List.length_append] at htext ⊢
  have hleft : (utf8 text).length ≤ limit - sink.accepted.length := by omega
  simp [Sink.write, h.budget, hleft, Nat.sub_sub]

/-- A text that the budget does not allow. -/
theorem Limited.write_of_lt {limit : Nat} {sink : Sink} (h : sink.Limited limit) {text : String}
    (htext : limit < (sink.accepted ++ utf8 text).length) :
    sink.write text = (.error (.other "reader went away"), { sink with
      accepted := (sink.accepted ++ utf8 text).take limit
      budget := some 0 }) := by
  have hbefore := h.within
  have hleft : ¬ (utf8 text).length ≤ limit - sink.accepted.length := by
    rw [List.length_append] at htext
    omega
  simp [Sink.write, h.budget, hleft, h.fails, List.take_append, List.take_of_length_le hbefore]

theorem takes (limit : Nat) : outlet.Takes (some limit) accepted (Limited limit) where
  within sink h := by
    rintro n ⟨rfl⟩
    exact h.within
  written text sink h := by
    rcases Nat.lt_or_ge limit (sink.accepted ++ utf8 text).length with htext | htext
    · simp only [outlet, h.write_of_lt htext, reduceCtorEq, false_iff]
      exact fun hwithin => Nat.not_le_of_lt htext (hwithin limit rfl)
    · simp only [outlet, h.write_of_le htext, true_iff]
      rintro n ⟨rfl⟩
      exact htext
  taken_write text sink h := by
    rcases Nat.lt_or_ge limit (sink.accepted ++ utf8 text).length with htext | htext
    · simp only [outlet, h.write_of_lt htext, Outlet.upTo]
    · simp only [outlet, h.write_of_le htext, Outlet.upTo, List.take_of_length_le htext]
  flushed sink h := by simp [outlet, Sink.flush, h.flushes, pure, Except.pure]
  taken_flush _ _ := rfl
  ready_write text sink h := by
    rcases Nat.lt_or_ge limit (sink.accepted ++ utf8 text).length with htext | htext
    · have hlength : ((sink.accepted ++ utf8 text).take limit).length = limit :=
        List.length_take_of_le (Nat.le_of_lt htext)
      simp only [outlet, h.write_of_lt htext]
      exact ⟨Nat.le_of_eq hlength, by rw [hlength, Nat.sub_self], h.fails, h.flushes⟩
    · simp only [outlet, h.write_of_le htext]
      exact ⟨htext, rfl, h.fails, h.flushes⟩
  ready_flush _ h := h

end Sink

/-- The directory as it is found when it can be read. -/
def Directory.intact (d : Directory) : Directory := { d with broken := false }

namespace Stage

variable {α : Type} {s : Stage}

theorem interrupt_repeat {γ : Type} (view : Stage → γ)
    (hview : ∀ s, view (interrupt s) = view s) (n : Nat) (s : Stage) :
    view (Nat.repeat interrupt n s) = view s := by
  induction n with
  | zero => rfl
  | succ n ih => exact (hview _).trans ih

/-- What a launch leaves alone. -/
theorem launch_eq {γ : Type} (view : Stage → γ) (hview : ∀ s, view (interrupt s) = view s)
    (command : Command) (s : Stage) :
    view (launch command s).2 = view { s with launches := s.launches ++ [command] } := by
  simp only [launch]
  split <;> exact interrupt_repeat view hview _ _

/-- Without a budget everything is accepted. -/
theorem accepts (hbudget : s.sink.budget = none) (hflush : s.sink.flushFails = false)
    (p : Interaction α) : Accepts partners p s := by
  refine forall_mem_transcript (fun s => s.sink.budget = none ∧ s.sink.flushFails = false)
    ?_ ?_ p ⟨hbudget, hflush⟩
  · rintro x s ⟨hbudget, hflush⟩
    cases x with
    | write text answer => simp [Surroundings.react, partners, Sink.write, hbudget, hflush]
    | readLine prompt answer =>
      simp only [Surroundings.react, partners, readLine]
      split <;> exact ⟨hbudget, hflush⟩
    | changeDir target answer =>
      simp only [Surroundings.react, partners]
      split <;> exact ⟨hbudget, hflush⟩
    | launch command answer =>
      have hsink := launch_eq (·.sink) (fun _ => rfl) command s
      exact hsink ▸ ⟨hbudget, hflush⟩
    | _ => exact ⟨hbudget, hflush⟩
  · rintro x s ⟨hbudget, hflush⟩ hanswer
    cases x with
    | write text answer =>
      have hwrite : answer = (s.sink.write text).1 := hanswer
      simp [hwrite, Sink.write, hbudget, Exchange.failure]
    | flush answer =>
      have hdone : answer = s.sink.flush := hanswer
      simp [hdone, Sink.flush, hflush, Exchange.failure, pure, Except.pure]
    | _ => rfl

theorem readsFrom : ReadsFrom partners (·.queue) where
  answer prompt s := by
    cases hqueue : s.queue <;> simp [partners, readLine, hqueue]
  taken prompt s := by
    cases hqueue : s.queue <;> simp [partners, readLine, hqueue]
  keeps x hx s := by
    cases x with
    | readLine => cases hx
    | changeDir target answer =>
      simp only [Surroundings.react, partners]
      split <;> rfl
    | launch command answer => exact launch_eq (·.queue) (fun _ => rfl) command s
    | _ => rfl

/-- Tries to move to a directory. -/
def tryChange (path : String) (d : Directory) : Except IoError Unit × Directory :=
  match d.change path with
  | .ok entered => (.ok (), entered)
  | .error e => (.error e, d)

theorem tryChange_of_error {path : String} {d : Directory} {e : IoError}
    (h : (tryChange path d).1 = .error e) : (tryChange path d).2 = d := by
  unfold tryChange at h ⊢
  cases hchange : d.change path with
  | ok => simp [hchange] at h
  | error => rfl

theorem holdsDirectory :
    HoldsDirectory partners (fun _ => ()) (·.directory) fun _ => tryChange where
  changed target s := by
    cases hchange : s.directory.change target <;> simp [partners, tryChange, hchange]
  keeps x hx s := by
    cases x with
    | changeDir => cases hx
    | readLine prompt answer =>
      simp only [Surroundings.react, partners, readLine]
      split <;> rfl
    | launch command answer => exact launch_eq (·.directory) (fun _ => rfl) command s
    | _ => rfl

theorem holdsDirectory_intact :
    HoldsDirectory partners (fun _ => ()) (·.directory.intact) fun _ => tryChange :=
  holdsDirectory.map Directory.intact fun _ target d => by
    have htarget : d.intact.target target = d.target target := rfl
    have hexisting : d.intact.existing = d.existing := rfl
    cases hexists : d.existing.contains (d.target target) <;>
      simp only [tryChange, Directory.change, htarget, hexisting, hexists] <;> rfl

end Stage
end PipeShell.Rehearsal
