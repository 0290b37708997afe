import PipeShell.Proofs.Rehearsal
import PipeShell.Proofs.Shell.Stepping

/-! # Flushed before it asks

In each step of a run an item is read, and a command launched, only right after a successful flush
of the output, and only if nothing that was said to the output in this step has failed
(`steps_flushed`). What is said before an exchange is what stands in front of it in the transcript,
so the conditions are put on each place of it (`AtEach`) and carried along a concatenation. -/

namespace PipeShell

/-- After this, the last word to the output was a flush that succeeded, and nothing has failed. -/
structure Ready (said : List Exchange) : Prop where
  flushed : ∃ earlier later, said = earlier ++ .flush (.ok ()) :: later ∧
    ∀ x ∈ later, x.isOutput = false
  unfailing : Unfailing Exchange.failure said

theorem Ready.of_flush {earlier later : List Exchange}
    (hearlier : Unfailing Exchange.failure earlier) (hlater : ∀ x ∈ later, x.isOutput = false) :
    Ready (earlier ++ .flush (.ok ()) :: later) where
  flushed := ⟨earlier, later, rfl, hlater⟩
  unfailing := unfailing_append.mpr ⟨hearlier, unfailing_cons.mpr ⟨rfl, fun x hx =>
    Exchange.failure_of_not_isOutput (hlater x hx)⟩⟩

open Delivery in
/-- The last call on the output was that flush, and no call has failed. -/
theorem Ready.calls {said : List Exchange} {calls : List Call} (h : Ready said)
    (hcalls : BehindAll said calls) :
    calls.getLast? = some (.flush (.ok ())) ∧ Unfailing Call.failure calls := by
  refine ⟨?_, hcalls.unfailing h.unfailing⟩
  obtain ⟨earlier, later, rfl, hlater⟩ := h.flushed
  obtain ⟨calls₁, _, rfl, -, hcalls⟩ := hcalls.append_inv
  obtain _ | ⟨hflush, hrest⟩ := hcalls
  obtain rfl := hrest.eq_nil hlater
  cases hflush with
  | flush => simp
  | other h => cases h

/-- An item is read, and a command launched, with the output ready; a launch follows a read. -/
def Guarded (before : List Exchange) (x : Exchange) : Prop :=
  (x.asks = true → Ready before) ∧ (x.isLaunch = true → reads before ≠ [])

/-- Where nothing is asked for, there is nothing to guard, whatever was said before. -/
theorem AtEach.guarded_of_silent (front : List Exchange → List Exchange) {trace : List Exchange}
    (h : Silent trace) : AtEach (fun before => Guarded (front before)) trace := by
  rintro before x rest rfl
  have hx : x.asks = false := h x (by simp)
  refine ⟨fun hasks => ?_, fun hlaunch => ?_⟩
  · rw [hx] at hasks
    cases hasks
  · cases x with
    | launch => cases hx
    | _ => cases hlaunch

/-! ## Steps -/

namespace Shell
open Interaction Output

variable {shell : Shell} {line : String} {plan : Plan} {trace : List Exchange} {flow : Flow}
  {item : Item} {result : Except IoError Flow}

/-- What is launched is launched right after the flush. -/
theorem CarryingOut.guarded (h : CarryingOut plan trace result) (front : List Exchange)
    (hfront : Unfailing Exchange.failure front) (hread : reads front ≠ []) :
    AtEach (fun before => Guarded (front ++ before)) trace := by
  have hsilent : ∀ plan answer, Silent [planNoted plan, .flush answer] := fun _ _ =>
    silent_cons.mpr ⟨rfl, silent_cons.mpr ⟨rfl, silent_nil⟩⟩
  cases h with
  | unflushed => exact .guarded_of_silent _ (hsilent _ _)
  | nothing | exit => exact .guarded_of_silent _ (hsilent _ _)
  | @launch command told _ hrunning =>
    obtain ⟨count, answer, rest, rfl, hrest⟩ := hrunning.exists_silent
    let opening : List Exchange :=
      [planNoted (.launch command), .flush (.ok ()), .interrupts count]
    have hopening : Silent opening :=
      silent_append.mpr ⟨hsilent _ _, silent_cons.mpr ⟨rfl, silent_nil⟩⟩
    have hready : Ready (front ++ opening) := by
      have hnoted : Unfailing Exchange.failure (front ++ [planNoted (.launch command)]) :=
        unfailing_append.mpr ⟨hfront, unfailing_cons.mpr ⟨rfl, unfailing_nil⟩⟩
      have hcount : ∀ x ∈ [Exchange.interrupts count], x.isOutput = false :=
        List.forall_mem_singleton.mpr rfl
      simpa [opening] using Ready.of_flush hnoted hcount
    have hlaunch : Guarded (front ++ opening) (.launch command answer) :=
      ⟨fun _ => hready, fun _ => by simp [hread]⟩
    have hopened : AtEach (fun before => Guarded (front ++ before)) opening :=
      .guarded_of_silent _ hopening
    refine hopened.append (.cons ?_ (.guarded_of_silent _ hrest))
    simpa using hlaunch

theorem Acting.guarded (h : Acting shell line trace result) (front : List Exchange)
    (hfront : Unfailing Exchange.failure front) (hread : reads front ≠ []) :
    AtEach (fun before => Guarded (front ++ before)) trace := by
  cases h with
  | blank => exact .nil
  | refused _ hplanning =>
    refine .guarded_of_silent _ (silent_append.mpr ⟨hplanning.silent, ?_⟩)
    exact silent_cons.mpr ⟨rfl, silent_cons.mpr ⟨rfl, silent_nil⟩⟩
  | @planned told plan trace result _ hplanning hcarried =>
    -- A line that has a plan has been planned without a failure.
    have htold : Unfailing Exchange.failure told := hplanning.concludes
    have hcarrying := hcarried.guarded (front ++ told)
      (unfailing_append.mpr ⟨hfront, htold⟩) (by simp [hread])
    simp only [List.append_assoc] at hcarrying
    exact .append (.guarded_of_silent _ hplanning.silent) hcarrying

theorem Responding.guarded (h : Responding shell item trace result) (front : List Exchange)
    (hfront : Unfailing Exchange.failure front) (hread : reads front ≠ []) :
    AtEach (fun before => Guarded (front ++ before)) trace := by
  cases h with
  | line hacting => exact hacting.guarded front hfront hread
  | interrupted | endOfInput | failed =>
    exact .guarded_of_silent _ (silent_cons.mpr ⟨rfl, silent_nil⟩)

/-- The directory is shown and the output flushed before the item is read. -/
theorem Showing.ready (h : Showing trace (.ok ())) : Ready trace := by
  cases h with
  | @written answer =>
    have hwritten : Unfailing Exchange.failure
        [.currentDir answer, .write (directoryLine answer ++ "\n") (.ok ())] :=
      unfailing_cons.mpr ⟨rfl, unfailing_cons.mpr ⟨rfl, unfailing_nil⟩⟩
    exact .of_flush hwritten (List.forall_mem_nil _)

theorem Trying.guarded (h : Trying shell trace result) : AtEach Guarded trace := by
  cases h with
  | unshown hshowing => exact .guarded_of_silent id hshowing.silent
  | @read shown item trace result hshowing hresponding =>
    have hready := hshowing.ready
    have hread : Guarded (shown ++ []) (.readLine prompt item) :=
      ⟨fun _ => by simpa using hready, nofun⟩
    have hrest := hresponding.guarded (shown ++ [.readLine prompt item])
      (unfailing_append.mpr ⟨hready.unfailing, unfailing_cons.mpr ⟨rfl, unfailing_nil⟩⟩)
      (by simp [reads, Exchange.item?])
    simp only [List.append_assoc, List.singleton_append] at hrest
    exact .append (.guarded_of_silent id hshowing.silent) (.cons hread hrest)

theorem Stepping.guarded (h : Stepping shell trace flow) : AtEach Guarded trace := by
  cases h with
  | went htrying => exact htrying.guarded
  | stopped htrying =>
    exact htrying.guarded.append (.guarded_of_silent _ (silent_cons.mpr ⟨rfl, silent_nil⟩))

/-! ## Runs -/

open Delivery in
/-- However the partners answer, an item is read and a command launched only where the last call on
the output was a flush that succeeded and none of the step has failed. A step reads at most one item
and launches at most one command, after the read. -/
theorem steps_flushed {turns : Nat} (h : (shell.steps turns).Holds trace flow) :
    ∃ parts, InSteps shell parts flow ∧ trace = parts.flatten ∧ parts.length ≤ turns ∧
      ∀ said ∈ parts,
        (∀ before x rest, said = before ++ x :: rest → x.asks = true →
          Ready before ∧ ∀ calls, BehindAll before calls →
            calls.getLast? = some (.flush (.ok ())) ∧ Unfailing Call.failure calls) ∧
        (∀ before x rest, said = before ++ x :: rest → x.isLaunch = true → reads before ≠ []) ∧
        (reads said).length ≤ 1 ∧ (launches said).length ≤ 1 := by
  obtain ⟨parts, hparts, htrace, hlength⟩ := holds_steps h
  refine ⟨parts, hparts, htrace, hlength, fun said hsaid => ?_⟩
  obtain ⟨value, hstepping⟩ := hparts.stepping said hsaid
  have hguarded := hstepping.guarded
  refine ⟨fun before x rest heq hasks => ?_, fun before x rest heq => ?_, hstepping.asked⟩
  · have hready := (hguarded before x rest heq).1 hasks
    exact ⟨hready, fun calls hcalls => hready.calls hcalls⟩
  · exact (hguarded before x rest heq).2

/-- The greeting is lost, the output recovers, and a program is launched in the next step. -/
theorem steps_flushed_recovered :
    let shell : Shell := { user := "ada" }
    let s : Rehearsal.Stage :=
      { queue := [.ok (.line "hello"), .ok (.line "ls")],
        sink := { budget := some 12, recover := true } }
    let said := (shell.steps 3).transcript Rehearsal.Stage.partners s
    let flow := ((shell.steps 3).run Rehearsal.Stage.partners s).1
    (shell.steps 3).Holds said flow ∧ said.filterMap Exchange.failure = [lost] ∧
      launches said = [.single ⟨["ls"]⟩] ∧
      ∃ parts, InSteps shell parts flow ∧ said = parts.flatten ∧
        ∀ part ∈ parts, ∀ before x rest, part = before ++ x :: rest → x.asks = true →
          Ready before := by
  intro shell s said flow
  have hsaid : (shell.steps 3).Holds said flow := holds_transcript Rehearsal.Stage.partners _ s
  obtain ⟨parts, hparts, hflatten, -, hflushed⟩ := steps_flushed hsaid
  refine ⟨hsaid, by decide +kernel, by decide +kernel, parts, hparts, hflatten, ?_⟩
  intro part hpart before x rest heq hasks
  exact ((hflushed part hpart).1 before x rest heq hasks).1

end Shell
end PipeShell
