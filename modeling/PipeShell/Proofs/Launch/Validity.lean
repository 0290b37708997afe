import PipeShell.Proofs.Launch.Settled

/-! # Vectors that are no programs

A vector can be executed if it names a program and holds no NUL (`Argv.Executable`). One that cannot
has one reason (`Refused`): it is empty, or there is a first token with a NUL, and the place of that
NUL is counted in bytes. Among the bytes of a text only the NUL is a zero
(`Text.zero_mem_utf8EncodeChar`), so this is the place where a NUL-terminated string would end.

A launch is refused for the first of its vectors that cannot be executed, without a call, and for no
other reason (`launch_refused`). -/

namespace PipeShell

/-! ## The zero among the bytes of a text -/

namespace Text

/-- Only the NUL has a zero among its bytes. -/
theorem zero_mem_utf8EncodeChar {c : Char} : 0 ∈ String.utf8EncodeChar c ↔ c = '\x00' := by
  have hbyte : ∀ n, 0 = UInt8.ofNat n → n % 256 = 0 := fun n h => by
    simpa using congrArg UInt8.toNat h.symm
  constructor
  · intro h
    have hval : c.val.toNat = 0 := by
      revert h
      -- A byte of a longer form has its highest bit set.
      fun_cases String.utf8EncodeChar c <;> intro h
      · have hzero := hbyte _ (List.mem_singleton.mp h)
        omega
      all_goals
        simp only [List.mem_cons, List.not_mem_nil, or_false] at h
        grind
    exact Char.ext (UInt32.toNat_inj.mp hval)
  · rintro rfl
    decide

theorem zero_mem_utf8 {text : String} : 0 ∈ utf8 text ↔ '\x00' ∈ text.toList := by
  simp [utf8, List.mem_flatMap, zero_mem_utf8EncodeChar]

/-- The first zero stands behind the bytes of what is before the first NUL. -/
theorem idxOf_zero_utf8 {text : String} {pre post : List Char}
    (htext : text.toList = pre ++ '\x00' :: post) (hpre : '\x00' ∉ pre) :
    (utf8 text).idxOf 0 = (utf8 (String.ofList pre)).length := by
  have hbytes : utf8 text = utf8 (String.ofList pre) ++ 0 :: post.flatMap String.utf8EncodeChar := by
    rw [utf8, htext, List.flatMap_append, List.flatMap_cons, utf8, String.toList_ofList]
    rfl
  have hnone : 0 ∉ utf8 (String.ofList pre) := by
    rwa [zero_mem_utf8, String.toList_ofList]
  rw [hbytes, List.idxOf_append, if_neg hnone, List.idxOf_cons_self, Nat.zero_add]

end Text

/-! ## One vector -/

/-- A vector that can be executed: it names a program, and no token holds a NUL. -/
def Argv.Executable (argv : Argv) : Prop :=
  argv.tokens ≠ [] ∧ ∀ token ∈ argv.tokens, '\x00' ∉ token.toList

/-- Why a vector cannot be executed. Of several NULs the first one of the first token counts, and it
stands behind as many bytes as the text before it has. -/
inductive Refused : Argv → LaunchError → Prop
  | empty : Refused ⟨[]⟩ .emptyCommand
  | nul {before after : List String} {token : String} {pre post : List Char} :
    (∀ t ∈ before, '\x00' ∉ t.toList) → token.toList = pre ++ '\x00' :: post → '\x00' ∉ pre →
    Refused ⟨before ++ token :: after⟩
      (.invalidArgument ⟨(Text.utf8 (String.ofList pre)).length⟩)

theorem CString.exists_ofString {text : String} (h : '\x00' ∉ text.toList) :
    ∃ s, CString.ofString text = .ok s := by
  have hbytes : 0 ∉ Text.utf8 text := fun hzero => h (Text.zero_mem_utf8.mp hzero)
  exact ⟨⟨Text.utf8 text, hbytes⟩, dif_neg hbytes⟩

theorem CString.ofString_of_nul {text : String} {pre post : List Char}
    (htext : text.toList = pre ++ '\x00' :: post) (hpre : '\x00' ∉ pre) :
    CString.ofString text = .error ⟨(Text.utf8 (String.ofList pre)).length⟩ := by
  have hzero : 0 ∈ Text.utf8 text := Text.zero_mem_utf8.mpr (by simp [htext])
  have herror : CString.ofString text = .error ⟨(Text.utf8 text).idxOf 0⟩ := dif_pos hzero
  rw [herror, Text.idxOf_zero_utf8 htext hpre]

/-- Tokens without a NUL are C strings. -/
theorem Argv.exists_cstrings {tokens : List String} (h : ∀ t ∈ tokens, '\x00' ∉ t.toList) :
    ∃ args, Argv.cstrings ⟨tokens⟩ = .ok args := by
  induction tokens with
  | nil => exact ⟨[], rfl⟩
  | cons token tokens ih =>
    obtain ⟨htoken, htokens⟩ := List.forall_mem_cons.mp h
    obtain ⟨s, hs⟩ := CString.exists_ofString htoken
    obtain ⟨args, hargs⟩ := ih htokens
    simp only [Argv.cstrings] at hargs
    exact ⟨s :: args, by simp [Argv.cstrings, hs, hargs]; rfl⟩

/-- The first token that is no C string says why the vector is none. -/
theorem Argv.cstrings_append {before after : List String} {token : String} {e : NulByte}
    (hbefore : ∀ t ∈ before, '\x00' ∉ t.toList) (htoken : CString.ofString token = .error e) :
    Argv.cstrings ⟨before ++ token :: after⟩ = .error e := by
  obtain ⟨args, hargs⟩ := Argv.exists_cstrings hbefore
  simp only [Argv.cstrings] at hargs
  simp [Argv.cstrings, List.mapM_append, hargs, htoken]
  rfl

/-- A vector that cannot be executed has a reason. -/
theorem Refused.exists_of_not_executable {argv : Argv} (h : ¬ argv.Executable) :
    ∃ e, Refused argv e := by
  obtain ⟨tokens⟩ := argv
  by_cases hempty : tokens = []
  · subst hempty
    exact ⟨_, .empty⟩
  have hnul : ¬ ∀ token ∈ tokens, '\x00' ∉ token.toList := fun hall => h ⟨hempty, hall⟩
  simp only [Classical.not_forall, Classical.not_not] at hnul
  obtain ⟨token, htoken, hnul⟩ := hnul
  cases hfirst : tokens.find? (·.toList.contains '\x00') with
  | none => simpa [hnul] using List.find?_eq_none.mp hfirst token htoken
  | some first =>
    obtain ⟨hholds, before, after, rfl, hbefore⟩ := List.find?_eq_some_iff_append.mp hfirst
    obtain ⟨pre, post, hsplit, hpre⟩ :=
      List.eq_append_cons_of_mem (List.contains_iff_mem.mp hholds)
    exact ⟨_, .nul (fun t ht => by simpa using hbefore t ht) hsplit hpre⟩

namespace Launch

theorem exists_ofArgv {argv : Argv} (h : argv.Executable) :
    ∃ program, Program.ofArgv argv = .ok program := by
  obtain ⟨tokens⟩ := argv
  obtain ⟨args, hargs⟩ := Argv.exists_cstrings h.2
  cases tokens with
  | nil => exact (h.1 rfl).elim
  | cons name rest =>
    simp only [Program.ofArgv, Argv.program, List.getElem?_cons_zero, hargs]
    exact ⟨_, rfl⟩

theorem ofArgv_of_refused {argv : Argv} {e : LaunchError} (h : Refused argv e) :
    Program.ofArgv argv = .error e := by
  cases h with
  | empty => rfl
  | @nul before after token pre post hbefore htoken hpre =>
    have hcstrings : Argv.cstrings ⟨before ++ token :: after⟩ = .error _ :=
      Argv.cstrings_append hbefore (CString.ofString_of_nul htoken hpre)
    have hname : ∃ name, Argv.program ⟨before ++ token :: after⟩ = some name := by
      cases before <;> exact ⟨_, rfl⟩
    obtain ⟨name, hname⟩ := hname
    simp only [Program.ofArgv, hname, hcstrings]
    rfl

/-! ## Launches -/

/-- The first of these vectors that cannot be executed, and why it cannot. -/
def FirstRefused (argvs : List Argv) (e : LaunchError) : Prop :=
  ∃ before argv after, argvs = before ++ argv :: after ∧ (∀ a ∈ before, a.Executable) ∧
    Refused argv e

theorem FirstRefused.exists {argvs : List Argv} (h : ∃ argv ∈ argvs, ¬ argv.Executable) :
    ∃ e, FirstRefused argvs e := by
  induction argvs with
  | nil => simp at h
  | cons first argvs ih =>
    by_cases hfirst : first.Executable
    · obtain ⟨argv, hargv, hno⟩ := h
      have hlater : argv ∈ argvs := by
        rcases List.mem_cons.mp hargv with rfl | hargv
        · exact (hno hfirst).elim
        · exact hargv
      obtain ⟨e, before, argv, after, rfl, hbefore, hrefused⟩ := ih ⟨argv, hlater, hno⟩
      exact ⟨e, first :: before, argv, after, rfl, List.forall_mem_cons.mpr ⟨hfirst, hbefore⟩,
        hrefused⟩
    · obtain ⟨e, hrefused⟩ := Refused.exists_of_not_executable hfirst
      exact ⟨e, [], first, argvs, rfl, List.forall_mem_nil _, hrefused⟩

/-- A refused launch is over before its first call. -/
theorem launch_eq_done {output : Option Fd} {command : Command} {e : LaunchError}
    (h : FirstRefused command.stages e) : launch output command = .done (.error e) := by
  obtain ⟨before, argv, after, hstages, hbefore, hrefused⟩ := h
  have herror := ofArgv_of_refused hrefused
  cases command with
  | single argv' =>
    obtain ⟨rfl, hone⟩ : before = [] ∧ [argv'] = argv :: after := by
      cases before with
      | nil => exact ⟨rfl, hstages⟩
      | cons _ before => cases before <;> cases hstages
    obtain ⟨rfl, -⟩ := List.cons.inj hone
    simp only [launch, runSingle, herror]
    rfl
  | piped left right =>
    match before, hstages with
    | [], hstages =>
      obtain ⟨rfl, -⟩ := List.cons.inj hstages
      simp only [launch, runPiped, herror]
      rfl
    | [_], hstages =>
      obtain ⟨rfl, hsecond⟩ := List.cons.inj hstages
      obtain ⟨rfl, -⟩ := List.cons.inj hsecond
      obtain ⟨program, hprogram⟩ := exists_ofArgv (hbefore left (.head _))
      simp only [launch, runPiped, hprogram, herror]
      rfl
    | _ :: _ :: before, hstages => cases before <;> cases hstages

/-- A launch of vectors that can be executed fails, if it does, in a system call. -/
theorem Outcome.of_executable {argvs : List Argv} {result : Except LaunchError (List Child)}
    (h : Outcome argvs result) (hargvs : ∀ argv ∈ argvs, argv.Executable) :
    (∃ children, result = .ok children) ∨ ∃ errno, result = .error (.syscall errno) := by
  cases h with
  | ended => exact .inl ⟨_, rfl⟩
  | failed => exact .inr ⟨_, rfl⟩
  | refused hargv hrefused =>
    obtain ⟨program, hprogram⟩ := exists_ofArgv (hargvs _ hargv)
    cases hrefused.symm.trans hprogram

/-- A launch with a vector that cannot be executed comes back at once, without a call, with the
reason of the first such vector. A launch of vectors that can be executed never comes back with such
a reason. -/
theorem launch_refused (output : Option Fd) (command : Command) :
    ((∃ argv ∈ command.stages, argv.tokens = [] ∨ ∃ token ∈ argv.tokens, '\x00' ∈ token.toList) →
      ∃ e, FirstRefused command.stages e ∧ launch output command = .done (.error e) ∧
        ∀ calls p, (launch output command).Makes calls p → calls = [] ∧ p = .done (.error e)) ∧
    ((∀ argv ∈ command.stages, argv.tokens ≠ [] ∧ ∀ token ∈ argv.tokens, '\x00' ∉ token.toList) →
      ∀ calls result, (launch output command).Makes calls (.done result) →
        result ≠ .error .emptyCommand ∧ ∀ nul, result ≠ .error (.invalidArgument nul)) := by
  refine ⟨fun hinvalid => ?_, fun hvalid calls result hmakes => ?_⟩
  · have hno : ∃ argv ∈ command.stages, ¬ argv.Executable := by
      obtain ⟨argv, hargv, hempty | ⟨token, htoken, hnul⟩⟩ := hinvalid
      · exact ⟨argv, hargv, fun h => h.1 hempty⟩
      · exact ⟨argv, hargv, fun h => h.2 token htoken hnul⟩
    obtain ⟨e, hfirst⟩ := FirstRefused.exists hno
    have hdone : launch output command = .done (.error e) := launch_eq_done hfirst
    refine ⟨e, hfirst, hdone, fun calls p hmakes => ?_⟩
    rw [hdone] at hmakes
    obtain _ | ⟨hnext, -⟩ := hmakes
    · exact ⟨rfl, rfl⟩
    · cases hnext
  · obtain ⟨-, -, -, -, houtcome⟩ := (launch_ensures output command).makes hmakes
    rcases houtcome.of_executable hvalid with ⟨children, rfl⟩ | ⟨errno, rfl⟩
    · exact ⟨nofun, nofun⟩
    · exact ⟨nofun, nofun⟩

/-- The NUL behind two characters of two and three bytes, and a launch of a program that ends. -/
theorem launch_refused_fifth_byte :
    (∀ calls p, (launch none (.piped ⟨["ls"]⟩ ⟨["wc", "é€\x00b\x00", "\x00"]⟩)).Makes calls p →
      calls = [] ∧ p = .done (.error (.invalidArgument ⟨5⟩))) ∧
    ∃ calls children, (launch none (.single ⟨["a"]⟩)).Makes calls (.done (.ok children)) ∧
      (.ok children : Except LaunchError (List Child)) ≠ .error .emptyCommand := by
  refine ⟨?_, ?_⟩
  · have hnul : Refused ⟨["wc", "é€\x00b\x00", "\x00"]⟩ (.invalidArgument ⟨5⟩) :=
      @Refused.nul ["wc"] ["\x00"] "é€\x00b\x00" ['é', '€'] ['b', '\x00'] (by decide) (by decide)
        (by decide)
    have hdone : launch none (.piped ⟨["ls"]⟩ ⟨["wc", "é€\x00b\x00", "\x00"]⟩) =
        .done (.error (.invalidArgument ⟨5⟩)) :=
      launch_eq_done ⟨[⟨["ls"]⟩], _, [], rfl, by simp [Argv.Executable], hnul⟩
    obtain ⟨e, -, hlaunch, hmakes⟩ := (launch_refused none
      (.piped ⟨["ls"]⟩ ⟨["wc", "é€\x00b\x00", "\x00"]⟩)).1
        ⟨⟨["wc", "é€\x00b\x00", "\x00"]⟩, .tail _ (.head _), .inr ⟨"\x00", by decide, by decide⟩⟩
    obtain rfl : e = .invalidArgument ⟨5⟩ := by
      cases hlaunch.symm.trans hdone
      rfl
    exact hmakes
  · obtain ⟨calls, -, hmakes⟩ := makes_single
    have hvalid : ∀ argv ∈ (Command.single ⟨["a"]⟩).stages, argv.tokens ≠ [] ∧
        ∀ token ∈ argv.tokens, '\x00' ∉ token.toList := by decide
    exact ⟨calls, _, hmakes, ((launch_refused none _).2 hvalid _ _ hmakes).1⟩

end Launch
end PipeShell
