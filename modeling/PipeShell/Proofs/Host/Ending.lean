import PipeShell.Host.Program
import PipeShell.Proofs.Launch.Calls
import PipeShell.Proofs.Shell.Remembering

/-! # The end of a session

A session ends with `exit` within as many steps as there are bytes to read and one more
(`Shell.steps_exit`): the items that it goes on with take at least one byte each. For the program on
a machine the bytes are those of the file that the standard input leads to, from its position on,
and those that the console has read and not yet given out (`Console.Left`). Nothing that the console
does adds to them. A program that is launched might, since it can write to that file and move the
position in it, so there is a condition on the launches of the run (`Program.session_exits`).

A launch on a machine makes the calls of the launcher (`Machine.launch_makes`). -/

namespace PipeShell

/-! ## Steps that are enough -/

/-- Whether the exchange brings an item with which a session may go on. -/
def Exchange.feeds : Exchange → Bool
  | readLine _ (.ok (.line _)) | readLine _ (.ok .interrupted) => true
  | _ => false

namespace Shell
open Interaction

section
variable {σ : Type} {partners : Surroundings σ} {Left : σ → Nat → Prop} {shell : Shell}
  {trace : List Exchange} {s : σ} {n : Nat}

theorem Stepping.exists_feeds (h : Stepping shell trace .continue) :
    ∃ x ∈ trace, x.feeds = true := by
  obtain ⟨htrying⟩ := h
  generalize hresult : (.ok .continue : Except IoError Flow) = result at htrying
  cases htrying with
  | unshown => cases hresult
  | @read shown item rest _ hshowing hresponding =>
    refine ⟨.readLine prompt item, by simp, ?_⟩
    cases hresponding with
    | line | interrupted => rfl
    | endOfInput | failed => cases hresult

/-- How an exchange changes what is left to read: it adds nothing, and an item with which a session
may go on takes some of it. -/
def Dwindles (partners : Surroundings σ) (Left : σ → Nat → Prop) (s : σ) (before : List Exchange)
    (x : Exchange) : Prop :=
  ∀ n, Left (partners.after before s) n →
    ∃ m ≤ n, Left (partners.react x (partners.after before s)) m ∧ (x.feeds = true → m < n)

theorem left_after (h : AtEach (Dwindles partners Left s) trace) (hleft : Left s n) :
    ∃ m ≤ n, Left (partners.after trace s) m ∧ ((∃ x ∈ trace, x.feeds = true) → m < n) := by
  induction trace generalizing s n with
  | nil => exact ⟨n, Nat.le_refl n, hleft, by simp⟩
  | cons x trace ih =>
    obtain ⟨m, hm, hleft, hfeeds⟩ := h [] x trace rfl n hleft
    have hrest : AtEach (Dwindles partners Left (partners.react x s)) trace :=
      fun before y rest heq => h (x :: before) y rest (congrArg (x :: ·) heq)
    obtain ⟨k, hk, hend, hlater⟩ := ih hrest hleft
    refine ⟨k, Nat.le_trans hk hm, hend, ?_⟩
    rintro ⟨y, hy, hyfeeds⟩
    rcases List.mem_cons.mp hy with rfl | hy
    · exact Nat.lt_of_le_of_lt hk (hfeeds hyfeeds)
    · exact Nat.lt_of_lt_of_le (hlater ⟨y, hy, hyfeeds⟩) hm

/-- A run ends in more steps than there is left to read. -/
theorem steps_exit {turns : Nat}
    (h : AtEach (Dwindles partners Left s) ((shell.steps turns).transcript partners s))
    (hleft : Left s n) (hturns : n < turns) : ((shell.steps turns).run partners s).1 = .exit := by
  induction turns generalizing s n with
  | zero => exact absurd hturns (Nat.not_lt_zero n)
  | succ turns ih =>
    rcases hstep : shell.step.run partners s with ⟨value, s'⟩
    cases value with
    | exit => rw [steps_run_of_exit hstep]
    | «continue» =>
      rw [steps_transcript_of_continue hstep] at h
      rw [steps_run_of_continue hstep]
      have hstepping : Stepping shell (shell.step.transcript partners s) .continue := by
        have hholds := holds_transcript partners shell.step s
        rw [hstep] at hholds
        exact .of_holds hholds
      have hs' : partners.after (shell.step.transcript partners s) s = s' := by
        rw [← run_eq_after, hstep]
      have hfirst : AtEach (Dwindles partners Left s) (shell.step.transcript partners s) :=
        fun before x rest heq => h before x _ (by rw [heq, List.append_assoc, List.cons_append])
      obtain ⟨m, -, hm, hlt⟩ := left_after hfirst hleft
      rw [hs'] at hm
      refine ih (fun before x rest heq => ?_) hm ?_
      · have hx := h (shell.step.transcript partners s ++ before) x rest (by simp [heq])
        rwa [Dwindles, Surroundings.after, List.foldl_append, ← Surroundings.after,
          ← Surroundings.after, hs'] at hx
      · have hless := hlt hstepping.exists_feeds
        omega

/-- A run that has ended goes no further. -/
theorem steps_run_of_le {turns more : Nat} (hexit : ((shell.steps turns).run partners s).1 = .exit)
    (hle : turns ≤ more) :
    (shell.steps more).run partners s = (shell.steps turns).run partners s := by
  induction turns generalizing more s with
  | zero => cases hexit
  | succ turns ih =>
    obtain ⟨more, rfl⟩ : ∃ k, more = k + 1 := ⟨more - 1, by omega⟩
    rcases hstep : shell.step.run partners s with ⟨value, s'⟩
    cases value with
    | exit => rw [steps_run_of_exit hstep, steps_run_of_exit hstep]
    | «continue» =>
      rw [steps_run_of_continue hstep] at hexit ⊢
      rw [steps_run_of_continue hstep]
      exact ih hexit (Nat.le_of_succ_le_succ hle)

end
end Shell

/-! ## Lines of the input -/

namespace Editor

variable {bytes : ByteArray} {start next : Nat}

theorem le_of_findIdx? {p : UInt8 → Bool} {i : Nat} (h : bytes.findIdx? p start = some i) :
    start ≤ i := by
  rw [ByteArray.findIdx?] at h
  induction start using ByteArray.findIdx?.loop.induct bytes p with
  | case1 start hsize hp =>
    rw [ByteArray.findIdx?.loop, dif_pos hsize, if_pos hp] at h
    exact Nat.le_of_eq (Option.some.inj h)
  | case2 start hsize hp ih =>
    rw [ByteArray.findIdx?.loop, dif_pos hsize, if_neg hp] at h
    exact Nat.le_of_succ_le (ih h)
  | case3 start hsize =>
    rw [ByteArray.findIdx?.loop, dif_neg hsize] at h
    cases h

theorem lt_lineEnd (h : start < bytes.size) : start < lineEnd bytes start := by
  rw [lineEnd]
  split
  · rename_i i hi
    exact Nat.lt_succ_of_le (le_of_findIdx? hi)
  · exact h

/-- At the end of the input there is nothing, and before it there is all up to the end of a line. An
input that is no terminal is never interrupted. -/
theorem readAt_cases (bytes : ByteArray) (start : Nat) :
    readAt bytes start = (.read (.error .endOfInput), start) ∨
      start < bytes.size ∧ ∃ attempt, attempt ≠ .read (.error .interrupted) ∧
        readAt bytes start = (attempt, lineEnd bytes start) := by
  rw [readAt]
  split
  · exact .inl rfl
  · rename_i hsize
    refine .inr ⟨Nat.lt_of_not_le hsize, ?_⟩
    dsimp only
    split
    · refine ⟨_, ?_, rfl⟩
      simp [invalidText]
    · split
      all_goals
        refine ⟨_, ?_, rfl⟩
        simp

end Editor

namespace Host

/-! ## The file behind the standard input -/

namespace World

variable {w w' : World} {index : Nat} {i : Inode} {content bytes : ByteArray}
  {position fd most : Nat}

/-- The open file that a descriptor of the shell stands for. -/
def shellFile? (w : World) (fd : Nat) : Option Nat :=
  (({ w with current := shellPid }).currentTask.handles.lookup fd).map Handle.file

theorem shellFile?_eq (w : World) (fd : Nat) : w.shellFile? fd =
    (((w.task? shellPid).getD { pid := shellPid, parent := 0, cwd := FileSystem.root }).handles.lookup
      fd).map Handle.file := rfl

/-- The shell reads a file with this content from a position on, and writes elsewhere. -/
structure Feeds (w : World) (index : Nat) (i : Inode) (content : ByteArray) (position : Nat) :
    Prop where
  source : w.shellFile? 0 = some index
  file : ∃ file, w.opened[index]? = some file ∧ file.target = .node i ∧
    file.position = position ∧ file.reads = true
  body : w.files.body? i = some (.file content)
  apart : ∀ fd, fd = 1 ∨ fd = 2 → ∀ k, w.shellFile? fd = some k →
    k ≠ index ∧ (w.opened[k]?).map (·.target) ≠ some (.node i)

/-- What the shell finds behind a descriptor. -/
theorem openFile?_eq (hcurrent : w.current = shellPid) (fd : Nat) : w.openFile? fd =
    match w.shellFile? fd with
    | none => .error .badDescriptor
    | some k => match w.opened[k]? with
      | none => .error .badDescriptor
      | some file => .ok (k, file) := by
  have hsame : { w with current := shellPid } = w := by
    cases w
    simp_all
  rw [openFile?, shellFile?, hsame]
  cases w.currentTask.handles.lookup fd with
  | none => rfl
  | some handle =>
    dsimp only [Option.map_some]
    cases w.opened[handle.file]? <;> rfl

theorem shellFile?_congr (h : w'.tasks = w.tasks) (fd : Nat) : w'.shellFile? fd = w.shellFile? fd := by
  simp [shellFile?, currentTask, task?, h]

/-- Where the shell's task stands makes no difference to its descriptors. -/
theorem shellFile?_modifyTask {f : Task → Task} (hpid : ∀ t, (f t).pid = t.pid)
    (hhandles : ∀ t, (f t).handles = t.handles) (pid fd : Nat) :
    (w.modifyTask pid f).shellFile? fd = w.shellFile? fd := by
  have hfound : (w.modifyTask pid f).task? shellPid =
      (w.task? shellPid).map fun t => if t.pid == pid then f t else t := by
    have hsame : ((fun t : Task => t.pid == shellPid) ∘ fun t => if t.pid == pid then f t else t) =
        fun t => t.pid == shellPid := by
      funext t
      dsimp only [Function.comp_apply]
      split <;> simp [hpid]
    rw [task?, modifyTask, List.find?_map, hsame, task?]
  rw [shellFile?_eq, shellFile?_eq, hfound]
  cases w.task? shellPid with
  | none => rfl
  | some t =>
    simp only [Option.map_some, Option.getD_some]
    split <;> simp [hhandles]

namespace Feeds

/-- What leaves the shell's descriptors, the file and its place in the table alone. -/
theorem of_eq (h : w.Feeds index i content position)
    (hhandles : ∀ fd, w'.shellFile? fd = w.shellFile? fd)
    (hfile : w'.opened[index]? = w.opened[index]?)
    (htargets : ∀ k : Nat, (w'.opened[k]?).map (·.target) = (w.opened[k]?).map (·.target))
    (hbody : w'.files.body? i = w.files.body? i) : w'.Feeds index i content position where
  source := (hhandles 0).trans h.source
  file := hfile ▸ h.file
  body := hbody.trans h.body
  apart fd hfd k hk := by
    rw [htargets]
    exact h.apart fd hfd k ((hhandles fd).symm.trans hk)

theorem congr (h : w.Feeds index i content position) (htasks : w'.tasks = w.tasks)
    (hopened : w'.opened = w.opened) (hfiles : w'.files = w.files) :
    w'.Feeds index i content position :=
  h.of_eq (shellFile?_congr htasks) (by rw [hopened]) (fun _ => by rw [hopened]) (by rw [hfiles])

/-- Whose call it is makes no difference. -/
theorem asShell (h : w.Feeds index i content position) :
    ({ w with current := shellPid } : World).Feeds index i content position :=
  h.congr rfl rfl rfl

/-- A signal to the shell itself changes nothing that it reads. -/
theorem send (h : w.Feeds index i content position) (hcurrent : w.current = shellPid)
    (signal : Nat) : (w.send w.current signal).2.Feeds index i content position := by
  rw [World.send, hcurrent]
  simp only [beq_self_eq_true, if_true]
  split
  · exact h.congr rfl rfl rfl
  · exact h

/-- A write to a file that is not the one that is read. -/
theorem writeNode {k : Nat} {file : OpenFile} {j : Inode} (h : w.Feeds index i content position)
    (hcurrent : w.current = shellPid) (hk : k ≠ index) (hj : j ≠ i) :
    (w.writeNode k file j bytes).2.Feeds index i content position := by
  rw [World.writeNode]
  split
  · rename_i written _
    dsimp only
    generalize (if file.append = true then written.size else file.position) = place
    split
    · exact h.send hcurrent fileTooLarge
    · refine h.of_eq (shellFile?_congr rfl) ?_ (fun l => ?_) ?_
      · simp [setPosition, Array.getElem?_modify, hk]
      · simp only [setPosition, Array.getElem?_modify]
        split
        · simp [Function.comp_def]
        · rfl
      · simp [FileSystem.body?, FileSystem.node?, setPosition, Array.getElem?_modify, hj]
  · exact h
  · exact h

/-- What the shell writes leaves its input alone. -/
theorem write (h : w.Feeds index i content position) (hcurrent : w.current = shellPid)
    (hfd : fd = 1 ∨ fd = 2) {answer : Except Errno Nat}
    (hwrite : w.write fd bytes = some (answer, w')) : w'.Feeds index i content position := by
  rw [World.write, openFile?_eq hcurrent] at hwrite
  cases hk : w.shellFile? fd with
  | none =>
    rw [hk] at hwrite
    cases hwrite
    exact h
  | some k =>
    obtain ⟨hne, htarget⟩ := h.apart fd hfd k hk
    rw [hk] at hwrite
    dsimp only at hwrite
    cases hfile : w.opened[k]? with
    | none =>
      rw [hfile] at hwrite
      cases hwrite
      exact h
    | some file =>
      rw [hfile] at hwrite htarget
      dsimp only at hwrite
      split at hwrite
      · cases hwrite
        exact h
      · cases hkind : file.target with
        | node j =>
          rw [hkind] at hwrite
          have hj : j ≠ i := fun heq => htarget (by simp [hkind, heq])
          obtain rfl := congrArg Prod.snd (Option.some.inj hwrite)
          exact h.writeNode hcurrent hne hj
        | output | errors | readEnd =>
          rw [hkind] at hwrite
          cases hwrite
          exact h.congr rfl rfl rfl
        | writeEnd p =>
          rw [hkind] at hwrite
          dsimp only at hwrite
          split at hwrite
          · cases hwrite
            exact h.send hcurrent brokenPipe
          · split at hwrite
            · cases hwrite
            · cases hwrite
              exact h.congr rfl rfl rfl

/-- The position alone is moved. -/
theorem setPosition (h : w.Feeds index i content position) (place : Nat) :
    (w.setPosition index place).Feeds index i content place where
  source := (shellFile?_congr rfl 0).trans h.source
  file := by
    obtain ⟨file, hfile, htarget, -, hreads⟩ := h.file
    refine ⟨{ file with position := place }, ?_, htarget, rfl, hreads⟩
    simp [World.setPosition, Array.getElem?_modify, hfile]
  body := h.body
  apart fd hfd k hk := by
    obtain ⟨hne, htarget⟩ := h.apart fd hfd k ((shellFile?_congr rfl fd).symm.trans hk)
    refine ⟨hne, ?_⟩
    rwa [World.setPosition, Array.getElem?_modify, if_neg hne.symm]

/-- A read brings what comes next of the file, and the position moves over it. -/
theorem read (h : w.Feeds index i content position) (hcurrent : w.current = shellPid)
    {answer : Except Errno ByteArray} (hread : w.read 0 most = some (answer, w')) :
    answer = .ok (content.extract position (position + most)) ∧
      w'.Feeds index i content
        (position + (content.extract position (position + most)).size) := by
  obtain ⟨file, hfile, htarget, rfl, hreads⟩ := h.file
  rw [World.read, openFile?_eq hcurrent, h.source] at hread
  simp only [hfile, hreads, htarget, h.body, Bool.not_true, Bool.false_eq_true, if_false,
    Option.some.injEq, Prod.mk.injEq] at hread
  obtain ⟨rfl, rfl⟩ := hread
  have hnoted : ({ w with files := { w.files with now := w.clock }.noteAccess i }).Feeds index i
      content file.position := by
    refine h.of_eq (shellFile?_congr rfl) rfl (fun _ => rfl) ?_
    simp only [FileSystem.body?, FileSystem.node?, FileSystem.noteAccess, Array.getElem?_modify,
      if_true, Option.map_map, Function.comp_def, apply_ite Node.body, ite_self]
  exact ⟨rfl, hnoted.setPosition _⟩

end Feeds
end World

namespace Console

/-- How many bytes are left to read: those of the file from the position on, and those that have
been read and do not yet belong to a line that was given out. -/
def Left (c : Console) (n : Nat) : Prop :=
  ∃ index i content position, c.machine.world.Feeds index i content position ∧
    n = (c.input.size - c.lineStart) + (content.size - position)

variable {c c' : Console} {n : Nat}

namespace Left

/-- What leaves the world and the input alone. -/
theorem of_eq (h : c.Left n) (hworld : c'.machine.world = c.machine.world)
    (hinput : c'.input = c.input) (hstart : c'.lineStart = c.lineStart) : c'.Left n := by
  rwa [Left, hworld, hinput, hstart]

theorem log (h : c.Left n) (record : Log.Record) : (c.log record).Left n := h.of_eq rfl rfl rfl

/-- What the console writes leaves its input alone. -/
theorem write (h : c.Left n) {fd : Nat} (hfd : fd = 1 ∨ fd = 2) (bytes : ByteArray) :
    (c.callNow (World.write fd bytes)).2.Left n := by
  obtain ⟨index, i, content, position, hfeeds, hn⟩ := h
  refine ⟨index, i, content, position, ?_, hn⟩
  have hshell := hfeeds.asShell
  simp only [callNow, call, Machine.call]
  cases hwrite : World.write fd bytes { c.machine.world with current := World.shellPid } with
  | none => exact hshell
  | some answer => exact hshell.write rfl hfd hwrite

theorem print (h : c.Left n) (text : String) : (c.print text).2.Left n := h.write (.inl rfl) _

/-- A block that has been read is left as long as it is kept. -/
theorem read (h : c.Left n) (most : Nat) : ∃ answer c', c.callNow (World.read 0 most) = (answer, c') ∧
    (∃ m ≤ n, c'.Left m) ∧
    ∀ block, answer = .ok block → ∃ m ≤ n, { c' with input := c'.input ++ block }.Left m := by
  obtain ⟨index, i, content, position, hfeeds, rfl⟩ := h
  have hshell := hfeeds.asShell
  simp only [callNow, call, Machine.call]
  cases hread : World.read 0 most { c.machine.world with current := World.shellPid } with
  | none => exact ⟨_, _, rfl, ⟨_, Nat.le_refl _, _, _, _, _, hshell, rfl⟩, nofun⟩
  | some answered =>
    obtain ⟨answer, world⟩ := answered
    obtain ⟨rfl, hmoved⟩ := hshell.read rfl hread
    have hsize := ByteArray.size_extract (a := content) (b := position) (e := position + most)
    refine ⟨_, _, rfl, ⟨_, ?_, _, _, _, _, hmoved, rfl⟩, ?_⟩
    · dsimp only
      omega
    · rintro block hblock
      obtain rfl := Except.ok.inj hblock
      refine ⟨_, ?_, _, _, _, _, hmoved, rfl⟩
      rw [ByteArray.size_append]
      dsimp only
      omega

/-- What has been read and not been given out is still left. -/
theorem fill (h : c.Left n) (blocks : Nat) : ∃ m ≤ n, (c.fill blocks).2.Left m := by
  induction blocks generalizing c n with
  | zero => exact ⟨n, Nat.le_refl n, h⟩
  | succ blocks ih =>
    obtain ⟨answer, c', hread, hleft, hkept⟩ := h.read blockSize
    rw [Console.fill, hread]
    split
    · exact ⟨n, Nat.le_refl n, h⟩
    · cases answer with
      | error e => exact hleft
      | ok block =>
        dsimp only
        split
        · exact hleft
        · obtain ⟨m, hm, hblock⟩ := hkept block rfl
          obtain ⟨k, hk, hend⟩ := ih hblock
          exact ⟨k, Nat.le_trans hk hm, hend⟩

/-- A line that is given out is no longer left. -/
theorem readInput (h : c.Left n) : ∃ m ≤ n, c.readInput.2.Left m ∧
    (∀ line, c.readInput.1 = .ok line → m < n) ∧ c.readInput.1 ≠ .error .interrupted := by
  obtain ⟨m, hm, hfilled⟩ := h.fill manyBlocks
  rw [Console.readInput]
  rcases hfill : c.fill manyBlocks with ⟨e | _, c'⟩
  · rw [hfill] at hfilled
    exact ⟨m, hm, hfilled, nofun, nofun⟩
  · rw [hfill] at hfilled
    obtain ⟨index, i, content, position, hfeeds, rfl⟩ := hfilled
    dsimp only at hm ⊢
    rcases Editor.readAt_cases c'.input c'.lineStart with hend | ⟨hsome, attempt, hattempt, hread⟩
    · rw [hend]
      exact ⟨_, hm, ⟨index, i, content, position, hfeeds, rfl⟩, nofun, nofun⟩
    · rw [hread]
      have hlater := Editor.lt_lineEnd hsome
      have hleft : ∀ c'' : Console, c''.machine.world = c'.machine.world → c''.input = c'.input →
          c''.lineStart = Editor.lineEnd c'.input c'.lineStart → c''.Left
            (c'.input.size - Editor.lineEnd c'.input c'.lineStart + (content.size - position)) := by
        rintro c'' hworld hinput hstart
        exact ⟨index, i, content, position, hworld ▸ hfeeds, by rw [hinput, hstart]⟩
      cases attempt with
      | abandoned => exact ⟨_, by omega, hleft _ rfl rfl rfl, nofun, nofun⟩
      | read item =>
        refine ⟨_, by omega, hleft _ rfl rfl rfl, fun _ _ => by omega, ?_⟩
        exact fun h => hattempt (congrArg _ h)

theorem attemptLine (h : c.Left n) (prompt : String) : ∃ m ≤ n, (c.attemptLine prompt).2.Left m ∧
    (∀ line, (c.attemptLine prompt).1 = .ok line → m < n) ∧
    (c.attemptLine prompt).1 ≠ .error .interrupted := by
  rw [Console.attemptLine]
  cases Editor.isPlainTerminal (c.machine.environment.text? "TERM") with
  | false => exact (h.log _).readInput
  | true =>
    have hprinted := (h.log (origin true)).print prompt
    simp only [if_true]
    rcases hprint : (c.log (origin true)).print prompt with ⟨e | _, c'⟩
    · rw [hprint] at hprinted
      exact ⟨n, Nat.le_refl n, hprinted, nofun, nofun⟩
    · rw [hprint] at hprinted
      exact hprinted.readInput

/-- The editor's history has nothing to do with what is left to read. -/
theorem accepting (h : c.Left n) (typed : Except ReadError String) :
    ((Editor.accepting typed).run lineReader c).2.Left n := by
  rcases typed with e | line
  · cases e <;> exact h
  · rw [Editor.accepting]
    split
    · exact h
    · exact h.of_eq rfl rfl rfl

theorem readLine (h : c.Left n) (prompt : String) : ∃ m ≤ n, (c.readLine prompt).2.Left m ∧
    ((Exchange.readLine prompt (c.readLine prompt).1).feeds = true → m < n) := by
  obtain ⟨m, hm, hattempted, hline, hne⟩ := h.attemptLine prompt
  have hreadLine : c.readLine prompt =
      (Editor.accepting (c.attemptLine prompt).1).run lineReader (c.attemptLine prompt).2 := rfl
  rw [hreadLine]
  refine ⟨m, hm, hattempted.accepting _, fun hfeeds => ?_⟩
  cases htyped : (c.attemptLine prompt).1 with
  | ok line => exact hline line htyped
  | error e =>
    rw [htyped] at hfeeds hne
    cases e with
    | interrupted => exact absurd rfl hne
    | endOfInput | resized | io => cases hfeeds

theorem changeDir (h : c.Left n) (target : String) : (c.changeDir target).2.Left n := by
  rw [Console.changeDir]
  split
  · obtain ⟨index, i, content, position, hfeeds, hn⟩ := h
    refine ⟨index, i, content, position, ?_, hn⟩
    have hhandles : ∀ cwd fd, (c.machine.setCwd cwd).world.shellFile? fd =
        c.machine.world.shellFile? fd := fun cwd fd =>
      World.shellFile?_modifyTask (f := fun t => { t with cwd }) (fun _ => rfl) (fun _ => rfl) _ fd
    exact hfeeds.of_eq (hhandles _) rfl (fun _ => rfl) rfl
  · exact h

end Left
end Console

/-! ## The program -/

namespace Program
open Console

variable {time : String} {filter : Log.Filter} {settings : Settings} {c : Console} {n : Nat}

theorem left_complain (h : c.Left n) (text : String) : (complain text c).Left n := by
  rw [complain]
  split
  · exact h
  · exact h.write (.inr rfl) _

theorem left_writeRecords (h : c.Left n) : (writeRecords time filter c).Left n :=
  have hmoved : { c with machine := { c.machine with records := [] } }.Left n := h.of_eq rfl rfl rfl
  left_complain hmoved _

/-- Apart from the programs that it launches, all that the shell does leaves its input alone, and
its items take of it. -/
theorem dwindles_react {x : Exchange} (h : c.Left n) (hlaunch : x.isLaunch = false)
    (hsave : x ≠ .saveHistory) (hanswer : (partners time filter).Answer x c) :
    ∃ m ≤ n, ((partners time filter).react x c).Left m ∧ (x.feeds = true → m < n) := by
  cases x with
  | write text answer => exact ⟨n, Nat.le_refl n, h.print text, nofun⟩
  | flush | currentDir | interrupts => exact ⟨n, Nat.le_refl n, h, nofun⟩
  | readLine prompt item =>
    obtain ⟨m, hm, hleft, hfeeds⟩ := h.readLine prompt
    obtain rfl : item = (c.readLine prompt).1 := hanswer
    exact ⟨m, hm, left_writeRecords hleft, hfeeds⟩
  | saveHistory => exact absurd rfl hsave
  | changeDir target answer => exact ⟨n, Nat.le_refl n, h.changeDir target, nofun⟩
  | launch => cases hlaunch
  | log record => exact ⟨n, Nat.le_refl n, left_writeRecords (h.log record), nofun⟩

/-- The programs that these exchanges launch give none of the input back: they do not move its
position to the front or add to its file. -/
def Sparing (time : String) (filter : Log.Filter) (start : Console) (trace : List Exchange) : Prop :=
  AtEach (fun before x => x.isLaunch = true →
    Shell.Dwindles (partners time filter) Left start before x) trace

/-- Where nothing is launched there is nothing to ask for. -/
theorem Sparing.of_launches {start : Console} {trace : List Exchange} (h : launches trace = []) :
    Sparing time filter start trace := by
  refine .of_forall_mem fun x hx before hlaunch => ?_
  have hnone := List.filterMap_eq_nil_iff.mp h x hx
  cases x with
  | launch => cases hnone
  | _ => cases hlaunch

/-- The steps end the session if there are more of them than bytes left to read. -/
theorem steps_exit {shell : Shell} {turns : Nat} (hleft : c.Left n) (hturns : n < turns)
    (hsparing : Sparing time filter c ((shell.steps turns).transcript (partners time filter) c)) :
    ((shell.steps turns).run (partners time filter) c).1 = .exit := by
  refine Shell.steps_exit (fun before x rest heq => ?_) hleft hturns
  cases hlaunch : x.isLaunch with
  | true => exact hsparing before x rest heq hlaunch
  | false =>
    have hsave : x ≠ .saveHistory := by
      rintro rfl
      have hholds := Interaction.holds_transcript (partners time filter) (shell.steps turns) c
      rw [heq] at hholds
      exact Shell.steps_save_nothing hholds List.mem_append_cons_self
    exact fun n hn => dwindles_react hn hlaunch hsave
      (Interaction.answer_transcript _ _ c before x rest heq)

/-! ### From the start -/

/-- What is left to read when the machine has just been made: all of its input. -/
theorem left_ofFiles {files : FileSystem} {cwd : Inode} {input : ByteArray} {sink : Machine.Sink}
    {machine : Machine} (hworld : machine.world = (Machine.ofFiles files cwd input sink).world) :
    ({ machine } : Console).Left input.size := by
  refine ⟨0, files.nodes.size, input, 0, ?_, by simp⟩
  rw [hworld]
  constructor
  · rfl
  · exact ⟨_, rfl, rfl, rfl, rfl⟩
  · have hpushed (a b : Node) : ((files.nodes.push a).push b)[files.nodes.size]? = some a := by
      rw [Array.getElem?_push, if_neg (by simp), Array.getElem?_push_size]
    exact congrArg (Option.map Node.body) (hpushed _ _)
  · rintro fd (rfl | rfl) k hk
    all_goals
      cases hk
      refine ⟨nofun, ?_⟩
    · cases sink <;> simp [Machine.ofFiles, FileSystem.addNameless]
    · simp [Machine.ofFiles]

theorem left_opened {machine : Machine} (h : ({ machine } : Console).Left n)
    (mistakes : List String) : (opened mistakes machine).Left n := by
  rw [opened]
  exact List.foldlRecOn (motive := fun c : Console => c.Left n) mistakes _ h
    fun _ hleft _ _ => left_complain hleft _

theorem left_prepared (h : c.Left n) : (prepared time filter settings c).Left n := by
  have hhandling : c.installHandler.Left n := by
    obtain ⟨index, i, content, position, hfeeds, hn⟩ := h
    exact ⟨index, i, content, position, hfeeds.congr rfl rfl rfl, hn⟩
  refine left_writeRecords ?_
  rw [Console.openEditor]
  rcases Editor.opened settings.history c.installHandler.contents with ⟨editor, records⟩
  have hopened : { c.installHandler with editor }.Left n := hhandling.of_eq rfl rfl rfl
  exact List.foldlRecOn (motive := fun c : Console => c.Left n) records _ hopened
    fun _ hleft record _ => hleft.log record

/-- What comes before the first step: the banner, if it is wanted. -/
def opening (settings : Settings) (machine : Machine) : Interaction Unit :=
  if settings.noBanner then pure () else (shell settings machine).tryBanner

/-- The console as the first step finds it. -/
def begun (time : String) (filter : Log.Filter) (settings : Settings) (c : Console) : Console :=
  ((opening settings c.machine).run (partners time filter) (prepared time filter settings c)).2

theorem opening_reports {machine : Machine} {trace : List Exchange}
    (h : (opening settings machine).Holds trace ()) : ∀ x ∈ trace, x.isReport = true := by
  rw [opening] at h
  split at h
  · obtain ⟨rfl, -⟩ := Interaction.holds_pure.mp h
    exact List.forall_mem_nil _
  · exact Shell.tryBanner_reports h

theorem left_begun (h : c.Left n) : (begun time filter settings c).Left n := by
  have hreports := opening_reports (Interaction.holds_transcript (partners time filter)
    (opening settings c.machine) (prepared time filter settings c))
  rw [begun, Interaction.run_eq_after]
  generalize (opening settings c.machine).transcript (partners time filter)
    (prepared time filter settings c) = trace at hreports
  have hstart : (prepared time filter settings c).Left n := left_prepared h
  generalize prepared time filter settings c = start at hstart
  induction trace generalizing start with
  | nil => exact hstart
  | cons x trace ih =>
    obtain ⟨hx, hrest⟩ := List.forall_mem_cons.mp hreports
    refine ih hrest _ ?_
    cases x with
    | write text answer => exact hstart.print text
    | log record => exact left_writeRecords (hstart.log record)
    | _ => cases hx

/-- What comes after the last step, whatever it was. -/
def closing : Interaction UInt32 := do
  Interaction.saveHistory (Interaction.done ())
  Interaction.note .program .info "leaving"
  return 0

theorem conversation_eq (settings : Settings) (machine : Machine) (turns : Nat) :
    conversation settings machine turns = (do
      opening settings machine
      let _ ← (shell settings machine).steps turns
      closing) := by
  cases hbanner : settings.noBanner <;>
    simp [conversation, Shell.session, opening, closing, hbanner]

/-- A run on a machine that was made for this input ends its session within the steps that it
allows, unless what it launches meddles with the input. More steps would change nothing. -/
theorem session_exits {files : FileSystem} {cwd : Inode} {input : ByteArray} {sink : Machine.Sink}
    {machine : Machine} {mistakes : List String}
    (hworld : machine.world = (Machine.ofFiles files cwd input sink).world) :
    let c := opened mistakes machine
    let start := begun time filter settings c
    let steps := (shell settings c.machine).steps
    Sparing time filter start ((steps (turns input)).transcript (partners time filter) start) →
      ((steps (turns input)).run (partners time filter) start).1 = .exit ∧
      ∀ more, turns input ≤ more →
        (conversation settings c.machine more).run (partners time filter)
          (prepared time filter settings c) = session time filter settings input c := by
  intro c start steps hsparing
  have hleft : c.Left input.size := left_opened (left_ofFiles hworld) mistakes
  have hturns : input.size < turns input := Nat.lt_succ_self _
  have hexit := steps_exit (left_begun hleft) hturns hsparing
  refine ⟨hexit, fun more hmore => ?_⟩
  have hrun (turns : Nat) : (conversation settings c.machine turns).run (partners time filter)
      (prepared time filter settings c) = closing.run (partners time filter)
        ((steps turns).run (partners time filter) start).2 := by
    rw [conversation_eq]
    exact (Interaction.run_bind ..).trans (Interaction.run_bind ..)
  rw [session, hrun, hrun, Shell.steps_run_of_le hexit hmore]

/-- A session in which nothing is launched. -/
example : let input := "exit\n".toUTF8
    let machine := Machine.ofFiles .empty FileSystem.root input .shown
    ∀ more, turns input ≤ more →
      (conversation {} machine more).run (partners "" {}) (prepared "" {} {} { machine }) =
        session "" {} {} input { machine } := by
  intro input machine
  have hlaunches : launches (((shell {} machine).steps (turns input)).transcript (partners "" {})
      (begun "" {} {} (opened [] machine))) = [] := by decide +kernel
  exact (@session_exits "" {} {} _ _ input .shown machine [] rfl (.of_launches hlaunches)).2

end Program

/-! ## Launches on a machine -/

namespace Machine
open Launch

/-- A machine waits until the child has ended. -/
theorem kernel_patient : kernel.Patient := by
  intro pid m
  simp only [kernel, wait]
  split <;> nofun

/-- A launch on a machine makes the calls of the launcher, each with the answer of the machine. -/
theorem launch_makes (command : Command) (m : Machine) :
    (Launch.launch none command).Makes ((Launch.launch none command).calls kernel m)
      (.done (m.launch command).1) := by
  have hmakes := Launching.makes_run kernel_patient (Launch.launch none command) m
  rcases hrun : (Launch.launch none command).run kernel m with ⟨answer, m'⟩
  rw [hrun] at hmakes
  simpa only [launch, hrun] using hmakes

end Machine
end Host
end PipeShell
