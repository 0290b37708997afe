import Mathlib.Data.List.Forall2
import PipeShell.Proofs.Launch.Validity
import PipeShell.Proofs.Shell.Rendering

/-! # What a program is given

The array of pointers that a vector becomes spells out its tokens (`Launch.Program.Spells`): one
string for each token, then a null and no other one, and each string ends where its token does,
whatever lies in memory behind it. The children of a launch are created for the programs of its
stages, in their order (`Launch.Launching.Creates`), and a child becomes the program that it was
created for and no other (`Launch.Process.Reaches.program_eq`). So what the programs of a line are
given are the tokens of its stages (`plan_arguments`). -/

namespace PipeShell

namespace Text

/-- The text that these bytes encode. -/
def decode (bytes : List UInt8) : Option String := ofUtf8? bytes.toByteArray

theorem decode_utf8 (text : String) : decode (utf8 text) = some text := by
  have hbytes : (utf8 text).toByteArray = text.toByteArray := String.utf8Encode_toList
  rw [decode, hbytes, ofUtf8?, String.fromUTF8?, dif_pos text.isValidUTF8]
  rfl

end Text

namespace CString

/-- A string is read to its end and no further. -/
theorem readMemory_append (s : CString) (rest : List UInt8) :
    readMemory (s.memory ++ rest) = s.bytes := by
  have hbytes : ∀ b ∈ s.bytes, (b != 0) = true := fun b hb =>
    bne_iff_ne.mpr fun hzero => s.nul_not_mem (hzero ▸ hb)
  rw [readMemory, memory, List.append_assoc, List.takeWhile_append_of_pos hbytes]
  simp

theorem readMemory_memory (s : CString) : readMemory s.memory = s.bytes := by
  simpa using s.readMemory_append []

theorem bytes_of_ofString {text : String} {s : CString} (h : ofString text = .ok s) :
    s.bytes = Text.utf8 text := by
  by_cases hzero : 0 ∈ Text.utf8 text
  · have herror : ofString text = .error ⟨(Text.utf8 text).idxOf 0⟩ := dif_pos hzero
    cases herror.symm.trans h
  · have hok : ofString text = .ok ⟨Text.utf8 text, hzero⟩ := dif_neg hzero
    cases hok.symm.trans h
    rfl

end CString

theorem Argv.bytes_of_cstrings {tokens : List String} {args : List CString}
    (h : Argv.cstrings ⟨tokens⟩ = .ok args) : args.map CString.bytes = tokens.map Text.utf8 := by
  simp only [Argv.cstrings] at h
  induction tokens generalizing args with
  | nil =>
    cases h
    rfl
  | cons token tokens ih =>
    rw [List.mapM_cons] at h
    cases htoken : CString.ofString token with
    | error nul =>
      rw [htoken] at h
      cases h
    | ok s =>
      rw [htoken] at h
      cases hrest : tokens.mapM CString.ofString with
      | error nul =>
        rw [hrest] at h
        cases h
      | ok rest =>
        rw [hrest] at h
        cases h
        rw [List.map_cons, List.map_cons, CString.bytes_of_ofString htoken, ih hrest]

namespace Launch

/-! ## The array -/

namespace Program

/-- The array of pointers spells out these tokens. -/
structure Spells (p : Program) (tokens : List String) : Prop where
  length : p.pointers.length = tokens.length + 1
  /-- The last entry is null, and no other one. -/
  null : ∀ i, p.pointers[i]? = some none ↔ i = tokens.length
  /-- Each other entry is a string whose bytes up to its first NUL are those of the token, whatever
  lies behind it. -/
  string : ∀ (i : Nat) (token : String), tokens[i]? = some token →
    ∃ s : CString, p.pointers[i]? = some (some s) ∧
      ∀ rest, CString.readMemory (s.memory ++ rest) = Text.utf8 token

theorem readPointers_append (args : List CString) (rest : List (Option CString)) :
    readPointers (args.map some ++ none :: rest) = args.map CString.bytes := by
  induction args with
  | nil => rfl
  | cons s args ih =>
    simp only [List.map_cons, List.cons_append, readPointers, ih, s.readMemory_memory]

variable {argv : Argv} {p : Program}

theorem exists_cstrings (h : ofArgv argv = .ok p) :
    ∃ args : List CString, p.pointers = args.map some ++ [none] ∧
      args.map CString.bytes = argv.tokens.map Text.utf8 := by
  unfold ofArgv at h
  split at h
  · cases h
  · split at h
    · cases h
    · next args hargs =>
      cases h
      exact ⟨args, rfl, Argv.bytes_of_cstrings hargs⟩

/-- A vector that becomes a program is spelt out by it. -/
theorem Spells.of_ofArgv (h : ofArgv argv = .ok p) : p.Spells argv.tokens := by
  obtain ⟨args, hpointers, hbytes⟩ := exists_cstrings h
  have hlength : args.length = argv.tokens.length := by simpa using congrArg List.length hbytes
  constructor
  · simp [hpointers, hlength]
  · intro i
    rw [hpointers, List.getElem?_append, List.length_map, hlength, List.getElem?_map]
    split
    · next hi =>
      refine iff_of_false (fun hnull => ?_) (Nat.ne_of_lt hi)
      obtain ⟨s, -, hs⟩ := Option.map_eq_some_iff.mp hnull
      cases hs
    · next hi =>
      rw [List.getElem?_singleton]
      split <;> simp <;> omega
  · intro i token htoken
    have hencoded : (args[i]?).map CString.bytes = some (Text.utf8 token) := by
      rw [← List.getElem?_map, hbytes, List.getElem?_map, htoken]
      rfl
    obtain ⟨s, hs, hsbytes⟩ := Option.map_eq_some_iff.mp hencoded
    refine ⟨s, ?_, fun rest => ?_⟩
    · have hi : i < (args.map some).length := by
        rw [List.length_map]
        exact (List.getElem?_eq_some_iff.mp hs).1
      rw [hpointers, List.getElem?_append_left hi, List.getElem?_map, hs]
      rfl
    · rw [s.readMemory_append, hsbytes]

/-- What is read of the array up to its null are the tokens. -/
theorem decode_arguments (h : ofArgv argv = .ok p) :
    p.arguments.map Text.decode = argv.tokens.map some := by
  obtain ⟨args, hpointers, hbytes⟩ := exists_cstrings h
  have hdecode : Text.decode ∘ Text.utf8 = some := funext Text.decode_utf8
  rw [Program.arguments, hpointers, readPointers_append, hbytes, List.map_map, hdecode]

end Program

/-! ## The children -/

namespace Process

/-- Calls that the process makes, whichever programs can be executed at each of them. -/
inductive Reaches : Process → Process → Prop
  | refl {p} : Reaches p p
  | step {p q} (executes : Program → Bool) : Reaches (p.step executes) q → Reaches p q

/-- The process is on its way to this program, if to any. -/
inductive Heads (program : Program) : Process → Prop
  | starting {calls t} : (∀ q, .exec q ∈ calls → q = program) → Heads program (.starting calls t)
  | replaced {t} : Heads program (.replaced program t)
  | ended {code} : Heads program (.ended code)

variable {program : Program} {p q : Process}

theorem Heads.created (plan : ChildPlan) (t : Table) : Heads plan.program (.created plan t) := by
  refine .starting fun q hq => ?_
  simpa [ChildPlan.calls] using hq

theorem Heads.step (h : Heads program p) (executes : Program → Bool) :
    Heads program (p.step executes) := by
  cases h with
  | replaced => exact .replaced
  | ended => exact .ended
  | @starting calls t hcalls =>
    cases calls with
    | nil => exact .ended
    | cons call calls =>
      have hrest : ∀ t, Heads program (.starting calls t) := fun t =>
        .starting fun q hq => hcalls q (.tail _ hq)
      cases call with
      | dup2 source target =>
        cases hdup : t.dup2 source target with
        | none =>
          simp only [Process.step, hdup]
          exact .ended
        | some t' =>
          simp only [Process.step, hdup]
          exact hrest t'
      | close fd => exact hrest _
      | defaultSigpipe | write => exact hrest t
      | exit code => exact .ended
      | exec q =>
        obtain rfl := hcalls q (.head _)
        simp only [Process.step]
        split
        · exact .replaced
        · exact hrest t

theorem Reaches.heads (hreaches : Reaches p q) (h : Heads program p) : Heads program q := by
  induction hreaches with
  | refl => exact h
  | step executes _ ih => exact ih (h.step executes)

/-- A child becomes the program that it was created for. -/
theorem Reaches.program_eq {plan : ChildPlan} {t held : Table}
    (h : Reaches (.created plan t) (.replaced program held)) : program = plan.program := by
  cases h.heads (.created plan t)
  rfl

end Process

/-- The child that the call creates, or tries to create. -/
def Call.plan? : Call → Option ChildPlan
  | fork plan _ => some plan
  | _ => none

/-- The children that were to be created, in order. -/
def plans (calls : List Call) : List ChildPlan := calls.filterMap Call.plan?

namespace Launching

variable {α β : Type} {p q : Launching α} {ps : List Program}

/-- Whatever the answers, children are created for these programs only, one after the other. -/
def Creates : Launching α → List Program → Prop
  | done _, _ => True
  | pipe next, ps => ∀ answer, (next answer).Creates ps
  | fork plan next, ps => ∃ rest, ps = plan.program :: rest ∧ ∀ answer, (next answer).Creates rest
  | close _ next, ps => next.Creates ps
  | wait _ next, ps => ∀ answer, (next answer).Creates ps
  | log _ next, ps => next.Creates ps

namespace Creates

/-- What creates no child leaves the programs to the rest. -/
theorem bind {f : α → Launching β} (h : p.Creates []) (hf : ∀ a, (f a).Creates ps) :
    (p >>= f).Creates ps := by
  change (p.bind f).Creates ps
  induction p with
  | done value => exact hf value
  | pipe next ih => exact fun answer => ih answer (h answer)
  | fork plan next =>
    obtain ⟨rest, hnil, -⟩ := h
    cases hnil
  | close fd next ih => exact ih h
  | wait pid next ih => exact fun answer => ih answer (h answer)
  | log record next ih => exact ih h

theorem of_nil (h : p.Creates []) : p.Creates ps := by
  have hbind : (p.bind done).Creates ps := h.bind fun _ => trivial
  rwa [bind_done] at hbind

/-- What creates no child adds none to the rest. -/
theorem bind_of_nil {f : α → Launching β} (h : p.Creates ps) (hf : ∀ a, (f a).Creates []) :
    (p >>= f).Creates ps := by
  change (p.bind f).Creates ps
  induction p generalizing ps with
  | done value => exact (hf value).of_nil
  | pipe next ih => exact fun answer => ih answer (h answer)
  | fork plan next ih =>
    obtain ⟨rest, rfl, hrest⟩ := h
    exact ⟨rest, rfl, fun answer => ih answer (hrest answer)⟩
  | close fd next ih => exact ih h
  | wait pid next ih => exact fun answer => ih answer (h answer)
  | log record next ih => exact ih h

theorem next {c : Call} (h : p.Creates ps) (hnext : Next p c q) :
    ∃ rest, ps = (c.plan?.map ChildPlan.program).toList ++ rest ∧ q.Creates rest := by
  cases hnext with
  | fork answer =>
    obtain ⟨rest, rfl, hrest⟩ := h
    exact ⟨rest, rfl, hrest answer⟩
  | pipe answer => exact ⟨ps, rfl, h answer⟩
  | interrupted => exact ⟨ps, rfl, h⟩
  | wait answer _ => exact ⟨ps, rfl, h answer⟩
  | close | log => exact ⟨ps, rfl, h⟩

/-- At any point of a launch, children have been created for the first of the programs. -/
theorem makes {calls : List Call} (h : p.Creates ps) (hmakes : p.Makes calls q) :
    (plans calls).map ChildPlan.program <+: ps := by
  induction hmakes generalizing ps with
  | refl => exact List.nil_prefix
  | @step _ _ _ c calls hnext _ ih =>
    obtain ⟨rest, rfl, hq⟩ := h.next hnext
    have hcons : (plans (c :: calls)).map ChildPlan.program =
        (c.plan?.map ChildPlan.program).toList ++ (plans calls).map ChildPlan.program := by
      cases hc : c.plan? <;> simp [plans, hc]
    rw [hcons, List.prefix_append_right_inj]
    exact ih hq

end Creates
end Launching

section
open Launching

theorem spawn_creates {α : Type} {plan : ChildPlan} {f : Except LaunchError Child → Launching α}
    {ps : List Program} (hf : ∀ answer, (f answer).Creates ps) :
    (spawn plan >>= f).Creates (plan.program :: ps) := by
  refine ⟨ps, rfl, fun answer => ?_⟩
  cases answer with
  | error e => exact hf _
  | ok pid => exact hf _

theorem reap_creates (child : Child) : (reap child).Creates [] := by
  intro answer
  cases answer <;> trivial

theorem close_creates (pipe : Pipe) : pipe.close.Creates [] := by
  obtain ⟨read, write⟩ := pipe
  cases read <;> cases write <;> trivial

theorem runStages_creates (output : Option Fd) (left right : Program) (readEnd writeEnd : Fd)
    (pipe : Pipe) : (runStages output left right readEnd writeEnd pipe).Creates [left, right] := by
  refine spawn_creates fun producer => ?_
  cases producer with
  | error e => trivial
  | ok producer =>
    refine spawn_creates fun consumer => .bind (close_creates pipe) fun pipe => ?_
    cases consumer with
    | error e =>
      refine .bind (.bind (reap_creates producer) fun answer => ?_) fun _ => trivial
      cases answer <;> trivial
    | ok consumer =>
      refine .bind (.bind (reap_creates producer) fun answer => ?_) fun _ => trivial
      refine .bind (reap_creates consumer) fun answer' => ?_
      cases answer <;> cases answer' <;> trivial

/-- A launch creates its children for the programs of its vectors. -/
theorem launch_creates (output : Option Fd) {command : Command} {ps : List Program}
    (h : List.Forall₂ (fun argv p => Program.ofArgv argv = .ok p) command.stages ps) :
    (launch output command).Creates ps := by
  cases command with
  | single argv =>
    obtain _ | ⟨hargv, _ | _⟩ := h
    simp only [launch, runSingle, hargv]
    refine spawn_creates fun child => ?_
    cases child with
    | error e => trivial
    | ok child =>
      refine .bind (reap_creates child) fun answer => ?_
      cases answer <;> trivial
  | piped left right =>
    obtain _ | ⟨hleft, _ | ⟨hright, _ | _⟩⟩ := h
    simp only [launch, runPiped, hleft, hright]
    intro answer
    rcases answer with e | ⟨readEnd, writeEnd⟩
    · trivial
    · exact .bind_of_nil (runStages_creates output _ _ readEnd writeEnd _) fun used =>
        .bind (close_creates used.1) fun _ => trivial

theorem exists_programs {argvs : List Argv}
    (h : ∀ argv ∈ argvs, ∃ p, Program.ofArgv argv = .ok p) :
    ∃ ps, List.Forall₂ (fun argv p => Program.ofArgv argv = .ok p) argvs ps := by
  induction argvs with
  | nil => exact ⟨[], .nil⟩
  | cons argv argvs ih =>
    obtain ⟨⟨p, hp⟩, hlater⟩ := List.forall_mem_cons.mp h
    obtain ⟨ps, hps⟩ := ih hlater
    exact ⟨p :: ps, .cons hp hps⟩

/-- The children that a launch has created so far are those of the first of its stages, and each
was created for the program of its stage. -/
theorem launch_plans {output : Option Fd} {command : Command} {ps : List Program}
    {calls : List Call} {p : Launching (Except LaunchError (List Child))}
    (h : List.Forall₂ (fun argv p => Program.ofArgv argv = .ok p) command.stages ps)
    (hmakes : (launch output command).Makes calls p) :
    List.Forall₂ (fun argv plan => Program.ofArgv argv = .ok plan.program)
      (command.stages.take (plans calls).length) (plans calls) := by
  obtain ⟨rest, hrest⟩ := (launch_creates output h).makes hmakes
  rw [← hrest] at h
  have hfirst := List.forall₂_take_append _ _ rest h
  rwa [List.forall₂_map_right_iff, List.length_map] at hfirst

end

end Launch

namespace Shell
open Interaction Line Launch

variable {shell : Shell} {line : String} {command : Command} {trace : List Exchange}

/-- The stages of a line that is planned as a launch have all its tokens. If none of these holds a
NUL, the vector of each stage becomes a program, which spells them out, and at any point of a launch
the children are those of the first stages: whatever one of them becomes has the tokens of its stage
for its arguments. -/
theorem plan_arguments (h : (shell.plan line).run.Holds trace (.ok (.launch command)))
    (hnul : ∀ argv ∈ command.stages, ∀ token ∈ argv.tokens, '\x00' ∉ token.toList) :
    command.stages.map Argv.tokens =
      tokens (beforeBar line) :: ((afterBar line).map tokens).toList ∧
    (∀ argv ∈ command.stages, ∃ p, Program.ofArgv argv = .ok p ∧ p.Spells argv.tokens) ∧
    ∀ output calls rest, (Launch.launch output command).Makes calls rest →
      List.Forall₂ (fun argv plan => ∀ table program held,
          Process.Reaches (.created plan table) (.replaced program held) →
          program.arguments.map Text.decode = argv.tokens.map some)
        (command.stages.take (plans calls).length) (plans calls) := by
  have hcalled : shell.called line = .ok (.launch command) := (Planning.of_holds h).planned.of_ok.1
  have hprogram : ∀ argv ∈ command.stages, ∃ p, Program.ofArgv argv = .ok p := fun argv hargv =>
    exists_ofArgv ⟨(wellFormed_of_called hcalled).nonempty argv hargv, hnul argv hargv⟩
  refine ⟨tokens_of_called hcalled, fun argv hargv => ?_, fun output calls rest hmakes => ?_⟩
  · obtain ⟨p, hp⟩ := hprogram argv hargv
    exact ⟨p, hp, .of_ofArgv hp⟩
  · obtain ⟨ps, hps⟩ := exists_programs hprogram
    refine (launch_plans hps hmakes).imp fun argv plan hplan table program held hreaches => ?_
    obtain rfl := hreaches.program_eq
    exact Program.decode_arguments hplan

/-- Two stages with tokens of more bytes than characters, the second of them starting with a bar.
The first child has been created and becomes its program. -/
theorem plan_arguments_twoBytes :
    let shell : Shell := { limits := { maxLine := 10, maxArgs := 2 } }
    let command : Command := .piped ⟨["ls", "é"]⟩ ⟨["|ü", "w"]⟩
    (∃ said, (shell.plan "ls  é||ü w").run.Holds said (.ok (.launch command))) ∧
      (∃ p, Program.ofArgv ⟨["|ü", "w"]⟩ = .ok p ∧ p.Spells ["|ü", "w"]) ∧
      ∃ calls rest plan table program held, (Launch.launch none command).Makes calls rest ∧
        plans calls = [plan] ∧ Process.Reaches (.created plan table) (.replaced program held) ∧
        program.arguments.map Text.decode = [some "ls", some "é"] := by
  intro shell command
  have hcalled : shell.called "ls  é||ü w" = .ok (.launch command) := by decide +kernel
  have hplan : (shell.plan "ls  é||ü w").run.Holds _ (.ok (.launch command)) :=
    (plan_eq_launch_iff Rehearsal.Stage.partners {}).mpr hcalled ▸ holds_transcript _ _ _
  have hmakes : ∃ calls rest plan, (Launch.launch none command).Makes calls rest ∧
      plans calls = [plan] ∧ plan.stdin = none ∧ plan.stdout = some 4 ∧ plan.unused = [3, 4] :=
    ⟨_, _, _, .step (.pipe (.ok (3, 4))) <| .step (.fork (.ok 7)) .refl, rfl, rfl, rfl, rfl⟩
  obtain ⟨calls, rest, ⟨program, stdin, stdout, unused⟩, hmakes, hplans, rfl, rfl, rfl⟩ := hmakes
  have hreaches : ∃ held, Process.Reaches
      (.created ⟨program, none, some 4, [3, 4]⟩ fun _ => some { resource := .output })
      (.replaced program held) :=
    ⟨_, .step (fun _ => true) <| .step (fun _ => true) <| .step (fun _ => true) <|
      .step (fun _ => true) <| .step (fun _ => true) .refl⟩
  obtain ⟨held, hreaches⟩ := hreaches
  obtain ⟨-, hprograms, hchildren⟩ := plan_arguments hplan (by decide)
  have hchildren := hchildren none calls rest hmakes
  rw [hplans] at hchildren
  obtain _ | ⟨harguments, -⟩ := hchildren
  exact ⟨⟨_, hplan⟩, hprograms _ (.tail _ (.head _)), calls, rest, _, _, program, held, hmakes,
    hplans, hreaches, harguments _ _ _ hreaches⟩

end Shell
end PipeShell
