import PipeShell.Proofs.Rehearsal

/-! # Sites

What a session acts on apart from its output: the directory it is in and the launcher, each of which
may change what the other finds (`Site`). Partners act on a site if nothing else touches it and if
their answers are decided by it (`ActsOn`); then what is said decides where the site is left
(`ActsOn.after`), and every answer is the one of the site at its place (`ActsOn.answer_transcript`). -/

namespace PipeShell

/-- A directory and a launcher, whose answers depend on a world that both can change. -/
structure Site (ω : Type) where
  current : ω → Except IoError String
  change : String → ω → Except IoError Unit × ω
  launch : Command → ω → Except LaunchError (List Child) × ω

namespace Site

variable {ω : Type} (site : Site ω)

/-- The world after an exchange. Only a change of directory and a launch make a difference. -/
def react : Exchange → ω → ω
  | .changeDir target _, w => (site.change target w).2
  | .launch command _, w => (site.launch command w).2
  | _, w => w

/-- The answer is the one that the site gives. -/
def Answer : Exchange → ω → Prop
  | .currentDir answer, w => answer = site.current w
  | .changeDir target answer, w => answer = (site.change target w).1
  | .launch command answer, w => answer = (site.launch command w).1
  | _, _ => True

/-- The world after these exchanges. -/
def after (trace : List Exchange) (w : ω) : ω := trace.foldl (fun w x => site.react x w) w

section
variable {site} {trace : List Exchange} {w : ω}

theorem after_cons (x : Exchange) (trace : List Exchange) (w : ω) :
    site.after (x :: trace) w = site.after trace (site.react x w) := rfl

/-- Where nothing is launched, the changes of directory decide. -/
theorem after_of_launches (h : launches trace = []) :
    site.after trace w = (targets trace).foldl (fun w target => (site.change target w).2) w := by
  induction trace generalizing w with
  | nil => rfl
  | cons x trace ih =>
    obtain ⟨hcommand, hrest⟩ : x.command? = none ∧ launches trace = [] := by
      simpa [launches] using h
    rw [after_cons, ih hrest]
    cases x with
    | launch => cases hcommand
    | _ => rfl

/-- Where no change of directory is asked for, the launches decide. -/
theorem after_of_targets (h : targets trace = []) :
    site.after trace w = (launches trace).foldl (fun w command => (site.launch command w).2) w := by
  induction trace generalizing w with
  | nil => rfl
  | cons x trace ih =>
    obtain ⟨htarget, hrest⟩ : x.target? = none ∧ targets trace = [] := by
      simpa [targets] using h
    rw [after_cons, ih hrest]
    cases x with
    | changeDir => cases htarget
    | _ => rfl

end
end Site

/-- The partners act on a site: what is said changes it and nothing else does, and it decides what
they answer. -/
structure ActsOn {σ ω : Type} (partners : Surroundings σ) (world : σ → ω) (site : Site ω) : Prop where
  moves : ∀ x s, world (partners.react x s) = site.react x (world s)
  answers : ∀ x s, partners.Answer x s → site.Answer x (world s)

namespace ActsOn
open Interaction

variable {α σ ω : Type} {partners : Surroundings σ} {world : σ → ω} {site : Site ω}

theorem after (h : ActsOn partners world site) (trace : List Exchange) (s : σ) :
    world (partners.after trace s) = site.after trace (world s) := by
  induction trace generalizing s with
  | nil => rfl
  | cons x trace ih => rw [Surroundings.after_cons, ih, h.moves, Site.after_cons]

/-- Each answer is the one of the site as the exchanges before it have left it. -/
theorem answer_transcript (h : ActsOn partners world site) (p : Interaction α) (s : σ) :
    AtEach (fun before x => site.Answer x (site.after before (world s)))
      (p.transcript partners s) :=
  (Interaction.answer_transcript partners p s).imp fun before x hanswer => by
    rw [← h.after]
    exact h.answers x _ hanswer

end ActsOn

namespace Rehearsal.Stage

/-- The site of a rehearsal. The launcher remembers what it has launched. -/
def site : Site (Directory × Launcher × List Command) where
  current w := w.1.read
  change target w := ((tryChange target w.1).1, (tryChange target w.1).2, w.2)
  launch command w :=
    (match w.2.1.failure with
      | some e => .error e
      | none => .ok (w.2.1.children command),
     w.1, w.2.1, w.2.2 ++ [command])

/-- Where the site of a rehearsal stands. -/
def world (s : Stage) : Directory × Launcher × List Command := (s.directory, s.launcher, s.launches)

theorem actsOn : ActsOn partners world site where
  moves x s := by
    cases x with
    | readLine prompt answer =>
      simp only [Surroundings.react, partners, readLine]
      split <;> rfl
    | changeDir target answer =>
      simp only [Surroundings.react, partners, Site.react, site, tryChange]
      cases hchange : s.directory.change target <;> simp [world, hchange]
    | launch command answer => exact launch_eq world (fun _ => rfl) command s
    | _ => rfl
  answers x s h := by
    cases x with
    | currentDir answer => exact h
    | changeDir target answer =>
      have hanswer : answer = (partners.changeDir target s).1 := h
      have hchanged := congrArg Prod.fst (holdsDirectory.changed target s)
      exact hanswer.trans hchanged
    | launch command answer =>
      have hanswer : answer = (launch command s).1 := h
      have hlauncher := interrupt_repeat (·.launcher) (fun _ => rfl) s.launcher.interrupts
        { s with launches := s.launches ++ [command] }
      simp only [launch, hlauncher] at hanswer
      rw [hanswer]
      simp only [Site.Answer, site, world]
      cases s.launcher.failure <;> rfl
    | _ => trivial

end Rehearsal.Stage
end PipeShell
