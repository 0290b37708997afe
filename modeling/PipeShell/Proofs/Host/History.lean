import PipeShell.Host.Program
import PipeShell.Proofs.Shell.Interruption
import PipeShell.Proofs.Shell.Remembering

/-! # The history of a run

What a run of the program gives to its history. Whoever the partners are, the conversation that the
program has remembers what the shell acts on and ends with success. The console is such a partner:
nothing that it does changes the history's file or takes back that the editor has failed for good
(`Console.Keeps`), so the calls behind its transcript are those of one editor
(`Program.behind_played`). -/

namespace PipeShell.Host

namespace Console

/-- The history's file is the same, and an editor that has failed for good has still failed. -/
structure Keeps (c c' : Console) : Prop where
  path : c'.editor.path = c.editor.path
  abandoned : c.abandoned = true → c'.abandoned = true

variable {c c' c'' : Console}

namespace Keeps

theorem refl (c : Console) : Keeps c c := ⟨rfl, id⟩

theorem trans (h : Keeps c c') (h' : Keeps c' c'') : Keeps c c'' :=
  ⟨h'.path.trans h.path, fun habandoned => h'.abandoned (h.abandoned habandoned)⟩

theorem not_abandoned (h : Keeps c c') (hend : c'.abandoned = false) : c.abandoned = false :=
  Bool.eq_false_iff.mpr fun habandoned => Bool.eq_false_iff.mp hend (h.abandoned habandoned)

/-- What leaves the editor alone. -/
theorem of_eq (heditor : c'.editor = c.editor) (habandoned : c'.abandoned = c.abandoned) :
    Keeps c c' :=
  ⟨congrArg Editor.path heditor, habandoned.trans⟩

end Keeps

theorem keeps_log (record : Log.Record) (c : Console) : Keeps c (c.log record) := .of_eq rfl rfl

theorem keeps_callNow {α : Type} (f : World → Option (Except Errno α × World)) (c : Console) :
    Keeps c (c.callNow f).2 := .of_eq rfl rfl

theorem keeps_print (text : String) (c : Console) : Keeps c (c.print text).2 := keeps_callNow _ c

theorem keeps_fill (blocks : Nat) (c : Console) : Keeps c (c.fill blocks).2 := by
  induction blocks generalizing c with
  | zero => exact .refl c
  | succ blocks ih =>
    rcases hread : c.callNow (World.read 0 blockSize) with ⟨answer, c'⟩
    have hkeeps : Keeps c c' := by simpa only [hread] using keeps_callNow (World.read 0 blockSize) c
    simp only [fill, hread]
    split
    · exact .refl c
    · cases answer with
      | error e => exact hkeeps
      | ok block =>
        dsimp only
        split
        · exact hkeeps
        · have hgiven : Keeps c' { c' with input := c'.input ++ block } := .of_eq rfl rfl
          exact hkeeps.trans (hgiven.trans (ih _))

theorem keeps_readInput (c : Console) : Keeps c c.readInput.2 := by
  rcases hfill : c.fill manyBlocks with ⟨answer, c'⟩
  have hkeeps : Keeps c c' := by simpa only [hfill] using keeps_fill manyBlocks c
  simp only [readInput, hfill]
  obtain e | ⟨⟩ := answer
  · exact hkeeps
  · refine hkeeps.trans ?_
    dsimp only
    rcases Editor.readAt c'.input c'.lineStart with ⟨attempted | _, lineStart⟩
    · exact .of_eq rfl rfl
    · exact ⟨rfl, fun _ => rfl⟩

theorem keeps_attemptLine (prompt : String) (c : Console) : Keeps c (c.attemptLine prompt).2 := by
  rw [attemptLine]
  cases Editor.isPlainTerminal (c.machine.environment.text? "TERM") with
  | false => exact (keeps_log _ c).trans (keeps_readInput _)
  | true =>
    refine (keeps_log (origin true) c).trans ?_
    rcases hprint : (c.log (origin true)).print prompt with ⟨answer, c'⟩
    have hkeeps : Keeps (c.log (origin true)) c' := by
      simpa only [hprint] using keeps_print prompt (c.log (origin true))
    simp only [if_true]
    cases answer with
    | error e => exact hkeeps
    | ok => exact hkeeps.trans (keeps_readInput c')

theorem keeps_writeHistory (file : String) (c : Console) : Keeps c (c.writeHistory file).2 := by
  rw [writeHistory]
  cases c.editor.toSave with
  | none => exact .refl c
  | some saved =>
    dsimp only
    split
    · exact ⟨rfl, id⟩
    · exact .refl c

/-- Whatever the editor has its reader do. -/
theorem keeps_run {α : Type} (p : Editor.Editing α) (c : Console) :
    Keeps c (p.run lineReader c).2 := by
  induction p generalizing c with
  | done value => exact .refl c
  | attempt prompt next ih => exact (keeps_attemptLine prompt c).trans (ih _ _)
  | add line next ih =>
    have hadded : Keeps c { c with editor := c.editor.add line } := ⟨rfl, id⟩
    exact hadded.trans (ih _ _)
  | save file next ih => exact (keeps_writeHistory file c).trans (ih _ _)
  | log record next ih => exact (keeps_log record c).trans (ih _)

theorem keeps_changeDir (target : String) (c : Console) : Keeps c (c.changeDir target).2 := by
  rw [changeDir]
  split
  · exact .of_eq rfl rfl
  · exact .refl c

theorem openEditor_path (path : Option String) (c : Console) :
    (c.openEditor path).editor.path = path := by
  have hlogged (records : List Log.Record) (c : Console) :
      Keeps c (records.foldl (fun c record => c.log record) c) := by
    induction records generalizing c with
    | nil => exact .refl c
    | cons record records ih => exact (keeps_log record c).trans (ih _)
  have hopened : (Editor.opened path c.contents).1.path = path := by
    cases path with
    | none => rfl
    | some file =>
      rw [Editor.opened]
      split <;> rfl
  exact (hlogged _ _).path.trans hopened

/-- The calls that the editor makes for an exchange that begins in this state. -/
def editorCalls (c : Console) : Exchange → List Editor.Call
  | .readLine prompt _ => (Editor.readLine prompt).calls lineReader c
  | .saveHistory => if c.abandoned then [] else c.editor.saveHistory.calls lineReader c
  | _ => []

/-- The console's history takes every line that it is given. -/
theorem takes_editorCalls (c : Console) (x : Exchange) : Editor.Takes (c.editorCalls x) := by
  have htakes {α : Type} (p : Editor.Editing α) : Editor.Takes (p.calls lineReader c) :=
    p.takes_calls lineReader (fun _ _ => rfl) c
  cases x with
  | readLine prompt answer => exact htakes _
  | saveHistory =>
    rw [editorCalls]
    split
    · exact fun _ _ => List.not_mem_nil
    · exact htakes _
  | _ => exact fun _ _ => List.not_mem_nil

end Console

namespace Program
open Console

variable {time : String} {filter : Log.Filter} {settings : Settings} {path : Option String}

theorem keeps_complain (text : String) (c : Console) : Keeps c (complain text c) := by
  rw [complain]
  split
  · exact .refl c
  · exact keeps_callNow _ c

theorem keeps_writeRecords (c : Console) : Keeps c (writeRecords time filter c) := by
  have hmoved : Keeps c { c with machine := { c.machine with records := [] } } := .of_eq rfl rfl
  exact hmoved.trans (keeps_complain _ _)

theorem keeps_react (x : Exchange) (c : Console) : Keeps c ((partners time filter).react x c) := by
  have hwritten (c' : Console) : Keeps c' (writeRecords time filter c') := keeps_writeRecords c'
  cases x with
  | write text answer => exact keeps_print text c
  | flush | currentDir | interrupts => exact .refl c
  | readLine prompt answer =>
    exact (keeps_run (Editor.readLine prompt) c).trans (hwritten _)
  | saveHistory =>
    simp only [Surroundings.react, partners]
    split
    · exact .refl c
    · exact (keeps_run c.editor.saveHistory c).trans (hwritten _)
  | changeDir target answer => exact keeps_changeDir target c
  | launch command answer =>
    have hlaunched : Keeps c { c with machine := (c.machine.launch command).2 } := .of_eq rfl rfl
    exact hlaunched.trans (hwritten _)
  | log record => exact (keeps_log record c).trans (hwritten _)

theorem keeps_session {α : Type} (p : Interaction α) (c : Console) :
    Keeps c (p.run (partners time filter) c).2 := by
  rw [Interaction.run_eq_after]
  induction p.transcript (partners time filter) c generalizing c with
  | nil => exact .refl c
  | cons x trace ih => exact (keeps_react x c).trans (ih _)

/-- The history that a session finds is the one that the settings name. -/
theorem prepared_path (c : Console) :
    (prepared time filter settings c).editor.path = settings.history :=
  (keeps_writeRecords _).path.trans (openEditor_path settings.history _)

/-! ## Runs -/

/-- The exchanges of a transcript, with the calls that the editor makes for each. -/
def played (time : String) (filter : Log.Filter) :
    List Exchange → Console → List (Exchange × List Editor.Call)
  | [], _ => []
  | x :: trace, c =>
    (x, c.editorCalls x) :: played time filter trace ((partners time filter).react x c)

theorem map_fst_played (trace : List Exchange) (c : Console) :
    (played time filter trace c).map Prod.fst = trace := by
  induction trace generalizing c with
  | nil => rfl
  | cons x trace ih => rw [played, List.map_cons, ih]

theorem behind_editorCalls {x : Exchange} {c : Console} (hpath : c.editor.path = path)
    (habandoned : c.abandoned = false) (hanswer : (partners time filter).Answer x c) :
    Editor.Behind path x (c.editorCalls x) := by
  cases x with
  | readLine prompt item =>
    obtain rfl : item = ((Editor.readLine prompt).run lineReader c).1 := hanswer
    exact .readLine (Editor.Editing.makes_calls lineReader (Editor.readLine prompt) c)
  | saveHistory =>
    have hsame : c.editor.saveHistory = ({ path } : Editor).saveHistory := by
      rw [Editor.saveHistory, hpath]; rfl
    have hcalls : c.editorCalls .saveHistory = c.editor.saveHistory.calls lineReader c := by
      simp [editorCalls, habandoned]
    rw [hcalls, hsame]
    exact .saveHistory (Editor.Editing.makes_calls ..)
  | _ => exact .other rfl

/-- An editor that has not failed for good is behind the whole transcript. -/
theorem behind_played {α : Type} (p : Interaction α) {c : Console} (hpath : c.editor.path = path)
    (hend : (p.run (partners time filter) c).2.abandoned = false) :
    ∀ turn ∈ played time filter (p.transcript (partners time filter) c) c,
      Editor.Behind path turn.1 turn.2 ∧ Editor.Takes turn.2 := by
  induction htrace : p.transcript (partners time filter) c generalizing p c with
  | nil => exact List.forall_mem_nil _
  | cons x trace ih =>
    rcases Interaction.turns (partners time filter) p c with
      ⟨value, rfl⟩ | ⟨x', q, -, hanswer, hturn, hrun⟩
    · cases htrace
    obtain ⟨rfl, rfl⟩ := List.cons.inj (hturn.symm.trans htrace)
    rw [hrun] at hend
    -- had the editor failed by now, it would still have failed at the end
    have hhere : c.abandoned = false :=
      ((keeps_react x' c).trans (keeps_session q _)).not_abandoned hend
    refine List.forall_mem_cons.mpr ⟨⟨behind_editorCalls hpath hhere hanswer, ?_⟩, ?_⟩
    · exact takes_editorCalls c x'
    · exact ih q ((keeps_react x' c).path.trans hpath) hend rfl

/-- The exchanges of a session on a console, with the calls that the editor makes for each. -/
def sessionTurns (time : String) (filter : Log.Filter) (settings : Settings) (input : ByteArray)
    (c : Console) : List (Exchange × List Editor.Call) :=
  let start := prepared time filter settings c
  let p := conversation settings c.machine (turns input)
  played time filter (p.transcript (partners time filter) start) start

theorem conversation_remembered {machine : Machine} {steps : Nat} {status : UInt32}
    {turns : List (Exchange × List Editor.Call)}
    (h : (conversation settings machine steps).Holds (turns.map Prod.fst) status)
    (hbehind : ∀ turn ∈ turns, Editor.Behind settings.history turn.1 turn.2)
    (htakes : ∀ turn ∈ turns, Editor.Takes turn.2) :
    status = 0 ∧ (shell settings machine).Remembered settings.history turns := by
  obtain ⟨trace, rest, _, hsaid, hsession, hend⟩ := Interaction.holds_bind.mp h
  obtain ⟨rfl, rfl⟩ := Interaction.holds_pure.mp hend
  rw [List.append_nil] at hsaid
  exact ⟨rfl, Shell.session_remembered (hsaid ▸ hsession) hbehind htakes⟩

theorem session_remembered {input : ByteArray} {c : Console}
    (hend : (session time filter settings input c).2.abandoned = false) :
    (session time filter settings input c).1 = 0 ∧
      (shell settings c.machine).Remembered settings.history
        (sessionTurns time filter settings input c) := by
  have hturns := behind_played (conversation settings c.machine (turns input))
    (prepared_path c) hend
  have hsaid : (conversation settings c.machine (turns input)).Holds
      ((sessionTurns time filter settings input c).map Prod.fst)
      (session time filter settings input c).1 := by
    rw [sessionTurns, map_fst_played]
    exact Interaction.holds_transcript ..
  exact conversation_remembered hsaid (fun turn hturn => (hturns turn hturn).1)
    fun turn hturn => (hturns turn hturn).2

/-- A program that gets as far as its session, whoever its partners are, ends with success once its
history has been given the lines that were acted on and has been saved. The lines that are not
given to it are those that the shell passes over without a word. -/
theorem history_remembered :
    (∀ settings machine steps status turns,
      (conversation settings machine steps).Holds (turns.map Prod.fst) status →
      (∀ turn ∈ turns, Editor.Behind settings.history turn.1 turn.2) →
      (∀ turn ∈ turns, Editor.Takes turn.2) →
      status = 0 ∧ (shell settings machine).Remembered settings.history turns) ∧
    ∀ (shell : Shell) (line : String), Text.allBlank line = true ↔
      ∃ result, (shell.executeLine line).run.Holds [] result :=
  ⟨fun _ _ _ _ _ => conversation_remembered, fun _ _ => Shell.allBlank_iff⟩

/-- A conversation in which one line is launched and the history is saved to a file. -/
theorem history_remembered_once :
    let settings : Settings := { history := some "h", noBanner := true }
    let machine : Machine := .ofFiles .empty FileSystem.root .empty .shown
    let turns : List (Exchange × List Editor.Call) := [(.currentDir (.ok "/"), []),
      (.write "\nDir: /\n" (.ok ()), []), (.flush (.ok ()), []),
      (.readLine Shell.prompt (.ok (.line "a")),
        [.attempt Shell.prompt (.ok "a"), .add "a" (.ok ())]),
      (.log ⟨.interpreter, .debug, "piped: false"⟩, []),
      (Shell.planNoted (.launch (.single ⟨["a"]⟩)), []), (.flush (.ok ()), []), (.interrupts 0, []),
      (.launch (.single ⟨["a"]⟩) (.ok []), []), (.interrupts 1, []),
      (Shell.interruptionNoted (.single ⟨["a"]⟩), []), (.saveHistory, [.save "h" (.ok ())]),
      (Shell.leaving, [])]
    (conversation settings machine 1).Holds (turns.map Prod.fst) 0 ∧
      (∀ turn ∈ turns, Editor.Behind settings.history turn.1 turn.2) ∧
      (∀ turn ∈ turns, Editor.Takes turn.2) ∧
      (shell settings machine).Remembered settings.history turns := by
  intro settings machine turns
  have hsession : ((shell settings machine).session (!settings.noBanner) 1).Holds
      (turns.map Prod.fst) () :=
    Interaction.holds_bind.mpr ⟨_, [.saveHistory, Shell.leaving], _, rfl, Shell.holds_launched,
      .step .saveHistory (.step .log .refl)⟩
  have hsaid : (conversation settings machine 1).Holds (turns.map Prod.fst) 0 := hsession.bind _
  have hbehind : ∀ turn ∈ turns, Editor.Behind settings.history turn.1 turn.2 := by
    have hread : Editor.Behind settings.history (.readLine Shell.prompt (.ok (.line "a")))
        [.attempt Shell.prompt (.ok "a"), .add "a" (.ok ())] :=
      .readLine (.attempt (.ok "a") (.add (.ok ()) .done))
    have hsaved : Editor.Behind settings.history .saveHistory [.save "h" (.ok ())] :=
      .saveHistory (.save (.ok ()) .done)
    intro turn hturn
    simp only [turns, List.mem_cons, List.not_mem_nil, or_false] at hturn
    rcases hturn with rfl | rfl | rfl | rfl | rfl | rfl | rfl | rfl | rfl | rfl | rfl | rfl | rfl
    all_goals first | exact hread | exact hsaved | exact .other rfl
  have htakes : ∀ turn ∈ turns, Editor.Takes turn.2 := by
    simp [turns, Editor.Takes]
  exact ⟨hsaid, hbehind, htakes, (history_remembered.1 _ _ _ _ _ hsaid hbehind htakes).2⟩

/-- The same on a machine, unless the editor fails for good. -/
theorem run_remembered {given : List String} {arguments : List ByteArray} {input : ByteArray}
    {machine : Machine} {mistakes : List String} (htexts : texts arguments = .ok given)
    (hsettings : Settings.ofArgs given = .ok settings)
    (hfilter : logFilter machine.environment = (filter, mistakes))
    (hend : (session time filter settings input (opened mistakes machine)).2.abandoned = false) :
    (run time arguments input machine).status = 0 ∧
      (shell settings (opened mistakes machine).machine).Remembered settings.history
        (sessionTurns time filter settings input (opened mistakes machine)) := by
  obtain ⟨hstatus, hremembered⟩ := session_remembered hend
  exact ⟨by simp [run, hfilter, htexts, hsettings, hend, hstatus], hremembered⟩

/-- A run that reads one line from the standard input. -/
example :
    let machine : Machine := { Machine.ofFiles .empty FileSystem.root "exit\n".toUTF8 .shown with
      environment := [(filterVariable, .empty)] }
    (run "" [] "exit\n".toUTF8 machine).status = 0 := by
  intro machine
  have hfilter : logFilter machine.environment = ({}, []) := by
    have hsplit : "".splitOn "/" = [""] ∧ "".splitOn "," = [""] := by
      constructor <;> (rw [String.splitOn, if_neg (by decide), String.splitOnAux]; decide)
    have htext : machine.environment.text? filterVariable = some "" := rfl
    simp only [logFilter, htext, Option.getD_some, Log.Filter.ofString, hsplit]
    rfl
  have hend : (session "" {} {} "exit\n".toUTF8 (opened [] machine)).2.abandoned = false := by
    decide +kernel
  exact (run_remembered rfl rfl hfilter hend).1

end Program
end PipeShell.Host
