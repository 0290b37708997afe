import PipeShell.Power
import PipeShell.Settings.Basic

/-! # Flags of a command line

What a list of arguments comes to. The texts that are read as numbers are the numerals
(`readNumber_eq_ok_iff`): whether a number is too large is asked after every digit, but no digit
makes a number smaller, so what does not fit is refused and nothing else.

A command line is written flag by flag, each with its value if it takes one (`Choice`), and a flag
may have a value once (`Given.Admits`). What is written so is read so, and only what has been given
makes a difference to the reading of the rest (`readFrom_choices`). Nothing else gives settings, but
for a `--` at the end (`exists_choices`). Hence the order of the flags makes no difference, whatever
their values look like, and a second value for a flag is refused before it is looked at
(`ofArgs_flags`). -/

namespace PipeShell.Settings

/-! ## Numerals -/

/-- A number as it may be written: an optional plus sign and decimal digits, at least one of them.
Zeros may stand in front. -/
structure Numeral where
  signed : Bool
  digits : List Char
  nonempty : digits ≠ []
  decimal : ∀ c ∈ digits, c.isDigit
  fits : Nat.ofDigitChars 10 digits 0 ≤ largest
  deriving DecidableEq

namespace Numeral

def text (n : Numeral) : String := String.ofList (if n.signed then '+' :: n.digits else n.digits)

/-- What the digits stand for. -/
def value (n : Numeral) : Nat := Nat.ofDigitChars 10 n.digits 0

end Numeral

section
variable {n : Nat} {digits : List Char} {text : String}

/-- No digit makes a number smaller. -/
theorem le_ofDigitChars (start : Nat) (digits : List Char) :
    start ≤ Nat.ofDigitChars 10 digits start := by
  induction digits generalizing start with
  | nil => exact Nat.le_refl _
  | cons c digits ih =>
    rw [Nat.ofDigitChars_cons]
    have hlater := ih (10 * start + (c.toNat - '0'.toNat))
    omega

theorem readDigits_eq_ok_iff {start : Nat} (hstart : start ≤ largest) :
    readDigits start digits = .ok n ↔
      (∀ c ∈ digits, c.isDigit) ∧ Nat.ofDigitChars 10 digits start = n ∧ n ≤ largest := by
  induction digits generalizing start with
  | nil =>
    simp only [readDigits, Except.ok.injEq, List.not_mem_nil, false_implies, implies_true,
      Nat.ofDigitChars_nil, true_and]
    exact ⟨fun h => ⟨h, h ▸ hstart⟩, And.left⟩
  | cons c digits ih =>
    rw [readDigits, List.forall_mem_cons, Nat.ofDigitChars_cons]
    by_cases hdigit : c.isDigit
    · rw [if_pos hdigit]
      have hlater := le_ofDigitChars (10 * start + digitValue c) digits
      by_cases hlarge : largest < 10 * start + digitValue c
      · simp only [hlarge, if_true, hdigit, true_and]
        refine iff_of_false nofun fun ⟨_, hvalue, hfits⟩ => ?_
        rw [← hvalue] at hfits
        exact absurd (Nat.le_trans hlater hfits) (Nat.not_le.mpr hlarge)
      · simp only [hlarge, if_false, hdigit, true_and]
        exact ih (Nat.not_lt.mp hlarge)
    · simp only [hdigit, Bool.false_eq_true, if_false, false_and]
      exact iff_of_false nofun id

/-- A numeral is read as the number that it stands for, and no other text is read as a number. -/
theorem readNumber_eq_ok_iff :
    readNumber text = .ok n ↔ ∃ numeral : Numeral, numeral.text = text ∧ numeral.value = n := by
  have hzero : 0 ≤ largest := Nat.zero_le _
  constructor
  · intro h
    rw [readNumber] at h
    split at h
    · cases h
    · cases h
    · next digits hne htext =>
      obtain ⟨hdecimal, hvalue, hfits⟩ := (readDigits_eq_ok_iff hzero).mp h
      refine ⟨⟨true, digits, fun hnil => hne (by rw [hnil]), hdecimal, hvalue ▸ hfits⟩, ?_, hvalue⟩
      exact (congrArg String.ofList htext.symm).trans String.ofList_toList
    · next hnil _ _ =>
      obtain ⟨hdecimal, hvalue, hfits⟩ := (readDigits_eq_ok_iff hzero).mp h
      exact ⟨⟨false, text.toList, hnil, hdecimal, hvalue ▸ hfits⟩, String.ofList_toList, hvalue⟩
  · rintro ⟨⟨signed, digits, hne, hdecimal, hfits⟩, rfl, rfl⟩
    have hread : readDigits 0 digits = .ok (Nat.ofDigitChars 10 digits 0) :=
      (readDigits_eq_ok_iff hzero).mpr ⟨hdecimal, rfl, hfits⟩
    obtain ⟨c, digits, rfl⟩ := List.exists_cons_of_ne_nil hne
    cases signed with
    | true => simpa [readNumber, Numeral.text, Numeral.value] using hread
    | false =>
      have hplus : c ≠ '+' := fun hplus => by simp [hplus] at hdecimal
      simpa [readNumber, Numeral.text, Numeral.value, hplus] using hread

/-- A number that fits can be written with a sign or without, and with as many zeros in front of it
as one likes. -/
theorem exists_numeral (hfits : n ≤ largest) (signed : Bool) (zeros : Nat) :
    ∃ numeral : Numeral, numeral.value = n ∧ numeral.text =
      (if signed then "+" else "") ++ String.ofList (List.replicate zeros '0') ++ toString n := by
  let digits := List.replicate zeros '0' ++ Nat.toDigits 10 n
  have hvalue : Nat.ofDigitChars 10 digits 0 = n := by
    rw [Nat.ofDigitChars_append, Nat.ofDigitChars_replicate_zero, Nat.mul_zero,
      Nat.ofDigitChars_ten_toDigits]
  have hdecimal : ∀ c ∈ digits, c.isDigit := by
    intro c hc
    rcases List.mem_append.mp hc with hzero | hdigit
    · rw [List.eq_of_mem_replicate hzero]
      decide
    · exact Nat.isDigit_of_mem_toDigits (by decide) (by decide) hdigit
  have hnonempty : digits ≠ [] := List.append_ne_nil_of_right_ne_nil _ Nat.toDigits_ne_nil
  refine ⟨⟨signed, digits, hnonempty, hdecimal, Nat.le_trans (Nat.le_of_eq hvalue) hfits⟩,
    hvalue, ?_⟩
  rw [Nat.toString_eq_ofList_toDigits, Numeral.text, ← String.toList_inj]
  cases signed <;> simp [digits]

end

/-! ## Names of flags -/

namespace Flag

theorem asksForHelp_name (flag : Flag) : asksForHelp flag.name = false := by cases flag <;> rfl

theorem startsWith_name (flag : Flag) : flag.name.startsWith "-" = true := by
  cases flag <;> simp [name]

theorem name_ne_dashes (flag : Flag) : flag.name ≠ "--" := by cases flag <;> decide

theorem ofName?_name (flag : Flag) : ofName? flag.name = some flag := by cases flag <;> decide

theorem eq_name_of_ofName? {flag : Flag} {argument : String} (h : ofName? argument = some flag) :
    argument = flag.name := by
  have hname := List.find?_some h
  exact (beq_iff_eq.mp hname).symm

end Flag

/-! ## Choices -/

/-- A flag as it is given, with its value if it takes one. -/
inductive Choice where
  | maxLine (number : Numeral)
  | maxArgs (number : Numeral)
  | history (file : String)
  | noBanner
  deriving DecidableEq

namespace Choice

def flag : Choice → Flag
  | maxLine _ => .maxLine
  | maxArgs _ => .maxArgs
  | history _ => .history
  | noBanner => .noBanner

/-- The value as it is written. -/
def text? : Choice → Option String
  | maxLine number | maxArgs number => some number.text
  | history file => some file
  | noBanner => none

def arguments (c : Choice) : List String := c.flag.name :: c.text?.toList

theorem eq_noBanner {c : Choice} (h : c.flag = .noBanner) : c = noBanner := by
  cases c with
  | noBanner => rfl
  | _ => cases h

theorem exists_text {c : Choice} (h : c.flag ≠ .noBanner) : ∃ text, c.text? = some text := by
  cases c with
  | noBanner => exact absurd rfl h
  | _ => exact ⟨_, rfl⟩

/-- Flags that are given a value at most once, and any number of switches. -/
def selection (line args : Option Numeral) (file : Option String) (switches : Nat) : List Choice :=
  line.toList.map maxLine ++ args.toList.map maxArgs ++ file.toList.map history ++
    List.replicate switches noBanner

end Choice

namespace Given

variable {g g' : Given} {c d : Choice} {choices : List Choice} {flag : Flag} {text : String}

/-- The flag has been given a value. A switch takes none. -/
def has (g : Given) : Flag → Bool
  | .maxLine => g.maxLine.isSome
  | .maxArgs => g.maxArgs.isSome
  | .history => g.history.isSome
  | .noBanner => false

def take (g : Given) : Choice → Given
  | .maxLine number => { g with maxLine := some number.value }
  | .maxArgs number => { g with maxArgs := some number.value }
  | .history file => { g with history := some file }
  | .noBanner => { g with noBanner := true }

/-- No flag is given a second value. -/
structure Admits (g : Given) (choices : List Choice) : Prop where
  free : ∀ c ∈ choices, g.has c.flag = false
  once : choices.Pairwise fun c d => c.flag = d.flag → c.flag = .noBanner

/-- A second value is refused whatever it is. -/
theorem fill_of_has (h : g.has flag = true) : g.fill text flag = .error .duplicate := by
  cases flag with
  | noBanner => cases h
  | _ =>
    rw [has] at h
    simp [fill, h]
    rfl

theorem has_take :
    (g.take c).has flag = true ↔ g.has flag = true ∨ c.flag = flag ∧ flag ≠ .noBanner := by
  cases c <;> cases flag <;> simp [take, has, Choice.flag]

/-- A limit is read from the numerals and from nothing else. -/
theorem readLimit_eq_ok_iff {n : Nat} : readLimit text = .ok n ↔
    ∃ number : Numeral, number.text = text ∧ number.value = n := by
  rw [← readNumber_eq_ok_iff, readLimit]
  cases readNumber text <;> simp

/-- A flag that is free takes what is written for it. -/
theorem fill_text (hfree : g.has c.flag = false) (htext : c.text? = some text) :
    g.fill text c.flag = .ok (g.take c) := by
  cases c with
  | noBanner => cases htext
  | history file =>
    obtain rfl := Option.some.inj htext
    rw [Choice.flag, has] at hfree
    simp [fill, Choice.flag, hfree]
    rfl
  | maxLine number | maxArgs number =>
    obtain rfl := Option.some.inj htext
    have hread : readLimit number.text = .ok number.value :=
      readLimit_eq_ok_iff.mpr ⟨number, rfl, rfl⟩
    rw [Choice.flag, has] at hfree
    simp [fill, Choice.flag, hfree, hread]
    rfl

/-- A flag takes a value only if it is free and the text is written for it. -/
theorem exists_choice_of_fill (hflag : flag ≠ .noBanner) (h : g.fill text flag = .ok g') :
    g.has flag = false ∧ ∃ c : Choice, c.flag = flag ∧ c.text? = some text ∧ g.take c = g' := by
  have hfree : g.has flag = false := by
    rw [← Bool.not_eq_true]
    exact fun hhas => by cases (fill_of_has hhas).symm.trans h
  have hnumber (hlimit : flag = .maxLine ∨ flag = .maxArgs) :
      ∃ number : Numeral, number.text = text := by
    cases hread : readLimit text with
    | ok n =>
      obtain ⟨number, htext, -⟩ := readLimit_eq_ok_iff.mp hread
      exact ⟨number, htext⟩
    | error reason =>
      rcases hlimit with rfl | rfl
      all_goals
        rw [has] at hfree
        simp only [fill, hfree, hread] at h
        cases h
  have hchoice : ∃ c : Choice, c.flag = flag ∧ c.text? = some text := by
    cases flag with
    | noBanner => exact absurd rfl hflag
    | history => exact ⟨.history text, rfl, rfl⟩
    | maxLine =>
      obtain ⟨number, htext⟩ := hnumber (.inl rfl)
      exact ⟨.maxLine number, rfl, congrArg some htext⟩
    | maxArgs =>
      obtain ⟨number, htext⟩ := hnumber (.inr rfl)
      exact ⟨.maxArgs number, rfl, congrArg some htext⟩
  obtain ⟨c, rfl, htext⟩ := hchoice
  exact ⟨hfree, c, rfl, htext, Except.ok.inj ((fill_text hfree htext).symm.trans h)⟩

/-- What has been given leaves room for a choice and others if it does so for the choice, and for
the others once that has been taken. -/
theorem admits_cons : g.Admits (c :: choices) ↔
    g.has c.flag = false ∧ (g.take c).Admits choices := by
  have htaken (flag : Flag) : (g.take c).has flag = false ↔
      g.has flag = false ∧ (c.flag = flag → c.flag = .noBanner) := by
    rw [← Bool.not_eq_true, has_take, not_or, Bool.not_eq_true, not_and, ne_eq, Decidable.not_not]
    exact and_congr_right fun _ => ⟨fun h hc => hc.trans (h hc), fun h hc => hc.symm.trans (h hc)⟩
  constructor
  · rintro ⟨hfree, honce⟩
    rw [List.forall_mem_cons] at hfree
    rw [List.pairwise_cons] at honce
    exact ⟨hfree.1, fun d hd => (htaken _).mpr ⟨hfree.2 d hd, honce.1 d hd⟩, honce.2⟩
  · rintro ⟨hc, hfree, honce⟩
    refine ⟨List.forall_mem_cons.mpr ⟨hc, fun d hd => ((htaken _).mp (hfree d hd)).1⟩, ?_⟩
    exact List.pairwise_cons.mpr ⟨fun d hd => ((htaken _).mp (hfree d hd)).2, honce⟩

/-- A value that has been given stays. -/
theorem has_foldl_take (h : g.has flag = true) : (choices.foldl take g).has flag = true := by
  induction choices generalizing g with
  | nil => exact h
  | cons c choices ih => exact ih (has_take.mpr (.inl h))

theorem take_comm (h : c.flag = d.flag → c = d) : (g.take c).take d = (g.take d).take c := by
  cases c <;> cases d <;> simp_all [take, Choice.flag]

theorem foldl_take_replicate (g : Given) (switches : Nat) :
    (List.replicate switches Choice.noBanner).foldl take g =
      { g with noBanner := g.noBanner || decide (0 < switches) } := by
  induction switches generalizing g with
  | zero => simp
  | succ n ih => simp [List.replicate_succ, ih, take]

end Given

/-! ## Reading -/

section
variable {g : Given} {c : Choice} {choices : List Choice} {flag : Flag} {settings : Settings}
  {arguments : List String}

/-- The name of a flag makes the next argument its value, and there must be one. -/
theorem readFrom_name (hflag : flag ≠ .noBanner) (g : Given) (rest : List String) :
    readFrom g false false (flag.name :: rest) = match rest with
      | [] => .error (.noValue flag)
      | text :: rest => match g.fill text flag with
        | .error reason => .error (.badValue flag text reason)
        | .ok g => readFrom g false false rest := by
  have hdashes : (flag.name == "--") = false := beq_false_of_ne flag.name_ne_dashes
  rw [readFrom]
  simp only [Flag.asksForHelp_name, Flag.startsWith_name, hdashes, Flag.ofName?_name]
  cases flag with
  | noBanner => exact absurd rfl hflag
  | _ => rfl

theorem readFrom_switch (g : Given) (rest : List String) :
    readFrom g false false (Flag.noBanner.name :: rest) =
      readFrom { g with noBanner := true } false false rest := by
  have hdashes : (Flag.noBanner.name == "--") = false := rfl
  rw [readFrom]
  simp only [Flag.asksForHelp_name, Flag.startsWith_name, hdashes, Flag.ofName?_name]
  rfl

/-- Once the flags have ended nothing is understood. -/
theorem readFrom_ended (g : Given) (helping : Bool) (argument : String) (rest : List String) :
    readFrom g helping true (argument :: rest) = .error (.unrecognized argument) := by
  simp [readFrom]

theorem readFrom_dashes (g : Given) (rest : List String) :
    readFrom g false false ("--" :: rest) = readFrom g false true rest := by
  simp [readFrom, asksForHelp]

theorem readFrom_choice (hfree : g.has c.flag = false) (rest : List String) :
    readFrom g false false (c.arguments ++ rest) = readFrom (g.take c) false false rest := by
  by_cases hflag : c.flag = .noBanner
  · rw [Choice.eq_noBanner hflag]
    exact readFrom_switch g rest
  · obtain ⟨text, htext⟩ := Choice.exists_text hflag
    rw [Choice.arguments, htext, Option.toList_some, List.cons_append, List.singleton_append,
      readFrom_name hflag]
    simp only [Given.fill_text hfree htext]

/-- Flags that are in order for what has been given are read as they are written, and nothing else
of them is left to be seen. -/
theorem readFrom_choices (h : g.Admits choices) (rest : List String) :
    readFrom g false false (choices.flatMap Choice.arguments ++ rest) =
      readFrom (choices.foldl Given.take g) false false rest := by
  induction choices generalizing g with
  | nil => rfl
  | cons c choices ih =>
    obtain ⟨hfree, hlater⟩ := Given.admits_cons.mp h
    rw [List.flatMap_cons, List.append_assoc, readFrom_choice hfree, ih hlater]
    rfl

/-- Who asks for help gets no settings. -/
theorem readFrom_helping (g : Given) (ended : Bool) (arguments : List String) :
    readFrom g true ended arguments ≠ .ok settings := by
  induction arguments generalizing ended with
  | nil => nofun
  | cons argument rest ih =>
    rw [readFrom]
    split
    · exact ih ended
    · split
      · split
        · exact ih true
        · nofun
      · nofun

/-- What the first argument is, if the arguments give settings: the name of a flag that is free, or
the end of the flags and of everything. -/
theorem readFrom_cons_eq_ok {argument : String} {rest : List String}
    (h : readFrom g false false (argument :: rest) = .ok settings) :
    (argument = "--" ∧ rest = [] ∧ settings = g.settings) ∨
      ∃ c left, g.has c.flag = false ∧ argument :: rest = c.arguments ++ left ∧
        readFrom (g.take c) false false left = .ok settings := by
  by_cases hdashes : argument = "--"
  · subst hdashes
    rw [readFrom_dashes] at h
    cases rest with
    | nil => exact .inl ⟨rfl, rfl, (Except.ok.inj h).symm⟩
    | cons argument rest => cases (readFrom_ended ..).symm.trans h
  cases hname : Flag.ofName? argument with
  | none =>
    rw [readFrom] at h
    simp only [hname, beq_false_of_ne hdashes] at h
    split at h
    · exact absurd h (readFrom_helping g false rest)
    · split at h <;> cases h
  | some flag =>
    obtain rfl := Flag.eq_name_of_ofName? hname
    by_cases hflag : flag = .noBanner
    · subst hflag
      rw [readFrom_switch] at h
      exact .inr ⟨.noBanner, rest, rfl, rfl, h⟩
    rw [readFrom_name hflag] at h
    cases rest with
    | nil => cases h
    | cons text rest =>
      dsimp only at h
      cases hfill : g.fill text flag with
      | error reason => rw [hfill] at h; cases h
      | ok g' =>
        rw [hfill] at h
        obtain ⟨hfree, c, rfl, htext, rfl⟩ := Given.exists_choice_of_fill hflag hfill
        exact .inr ⟨c, rest, hfree, by rw [Choice.arguments, htext]; rfl, h⟩

/-- Arguments that give settings are flags that are in order, but for a `--` at the end. -/
theorem exists_choices (h : readFrom g false false arguments = .ok settings) :
    ∃ choices : List Choice, g.Admits choices ∧ settings = (choices.foldl Given.take g).settings ∧
      (arguments = choices.flatMap Choice.arguments ∨
        arguments = choices.flatMap Choice.arguments ++ ["--"]) := by
  -- A flag takes its value along, so the induction is on the length.
  induction hlength : arguments.length using Nat.strongRecOn generalizing g arguments with
  | ind n ih =>
    subst hlength
    cases arguments with
    | nil => exact ⟨[], ⟨List.forall_mem_nil _, .nil⟩, (Except.ok.inj h).symm, .inl rfl⟩
    | cons argument rest =>
      rcases readFrom_cons_eq_ok h with ⟨rfl, rfl, hsettings⟩ | ⟨c, left, hfree, hread, hlater⟩
      · exact ⟨[], ⟨List.forall_mem_nil _, .nil⟩, hsettings, .inr rfl⟩
      · have hshorter : left.length < (argument :: rest).length := by
          rw [hread, List.length_append, Choice.arguments, List.length_cons]
          omega
        obtain ⟨choices, hadmits, hsettings, hwritten⟩ := ih _ hshorter hlater rfl
        refine ⟨c :: choices, Given.admits_cons.mpr ⟨hfree, hadmits⟩, hsettings, ?_⟩
        rw [hread, List.flatMap_cons, List.append_assoc]
        exact hwritten.imp (congrArg _) (congrArg _)

end

/-! ## Selections -/

section
variable {g : Given} {c d : Choice} {line args : Option Numeral} {file : Option String}
  {switches : Nat} {choices : List Choice}

theorem foldl_take_selection :
    (Choice.selection line args file switches).foldl Given.take {} =
      ⟨line.map Numeral.value, args.map Numeral.value, file, decide (0 < switches)⟩ := by
  simp only [Choice.selection, List.foldl_append, Given.foldl_take_replicate]
  cases line <;> cases args <;> cases file <;> simp [Given.take]

/-- In a selection a flag stands for one choice. -/
theorem eq_of_mem_selection (hc : c ∈ Choice.selection line args file switches)
    (hd : d ∈ Choice.selection line args file switches) (h : c.flag = d.flag) : c = d := by
  simp only [Choice.selection, List.mem_append, List.mem_map, Option.mem_toList,
    List.mem_replicate] at hc hd
  grind [Choice.flag]

theorem admits_selection : ({} : Given).Admits (Choice.selection line args file switches) where
  free c _ := by cases c <;> rfl
  once := by
    cases line <;> cases args <;> cases file <;>
      simp [Choice.selection, Choice.flag, List.pairwise_replicate]

/-- The order of the flags makes no difference. -/
theorem perm_selection (h : choices.Perm (Choice.selection line args file switches)) :
    ({} : Given).Admits choices ∧ choices.foldl Given.take {} =
      ⟨line.map Numeral.value, args.map Numeral.value, file, decide (0 < switches)⟩ := by
  refine ⟨⟨fun c hc => admits_selection.free c (h.mem_iff.mp hc), ?_⟩, ?_⟩
  · have hsymm {c d : Choice} (hcd : c.flag = d.flag → c.flag = .noBanner)
        (hflag : d.flag = c.flag) : d.flag = .noBanner := hflag.trans (hcd hflag.symm)
    exact (h.pairwise_iff hsymm).mpr admits_selection.once
  · rw [← foldl_take_selection]
    refine h.foldl_eq' (fun c hc d hd g => Given.take_comm fun hflag => ?_) {}
    exact eq_of_mem_selection (h.mem_iff.mp hc) (h.mem_iff.mp hd) hflag

end
/-! ## A second value -/

section
variable {g : Given} {flag : Flag} {settings : Settings}

/-- What follows arguments that give settings is read with the values that have been given by then,
unless a `--` at the end of these has ended the flags. -/
theorem exists_readFrom_append {arguments : List String}
    (h : readFrom g false false arguments = .ok settings) :
    ∃ g' ended,
      (∀ rest, readFrom g false false (arguments ++ rest) = readFrom g' false ended rest) ∧
      (∀ flag, g.has flag = true → g'.has flag = true) ∧
      (ended = true → arguments.getLast? = some "--") := by
  obtain ⟨choices, hadmits, -, rfl | rfl⟩ := exists_choices h
  · exact ⟨_, false, readFrom_choices hadmits, fun _ => Given.has_foldl_take, nofun⟩
  · have hdashes (rest : List String) :
        readFrom g false false (choices.flatMap Choice.arguments ++ ["--"] ++ rest) =
          readFrom (choices.foldl Given.take g) false true rest := by
      rw [List.append_assoc, readFrom_choices hadmits]
      exact readFrom_dashes _ rest
    exact ⟨_, true, hdashes, fun _ => Given.has_foldl_take, fun _ => List.getLast?_concat⟩

/-- The flag that such arguments begin with has got its value when the rest is read. -/
theorem exists_has {value : String} {later : List String} (hflag : flag ≠ .noBanner)
    (h : readFrom g false false (flag.name :: value :: later) = .ok settings) :
    ∃ g' ended, g'.has flag = true ∧ (ended = true → later.getLast? = some "--") ∧
      ∀ rest, readFrom g false false (flag.name :: value :: later ++ rest) =
        readFrom g' false ended rest := by
  simp only [List.cons_append, readFrom_name hflag] at h ⊢
  cases hfill : g.fill value flag with
  | error reason => rw [hfill] at h; cases h
  | ok g₁ =>
    rw [hfill] at h
    obtain ⟨-, c, hc, -, rfl⟩ := Given.exists_choice_of_fill hflag hfill
    obtain ⟨g', ended, hread, hkept, hended⟩ := exists_readFrom_append h
    exact ⟨g', ended, hkept flag (Given.has_take.mpr (.inr ⟨hc, hflag⟩)), hended, hread⟩

/-- A flag that has got a value does not get another one, and after a `--` it is not even a flag. -/
theorem readFrom_of_has (hhas : g.has flag = true) (ended : Bool) (text : String)
    (rest : List String) :
    readFrom g false ended (flag.name :: text :: rest) =
      .error (if ended then .unrecognized flag.name else .badValue flag text .duplicate) := by
  cases ended with
  | true => exact readFrom_ended ..
  | false =>
    have hflag : flag ≠ .noBanner := by
      rintro rfl
      cases hhas
    rw [readFrom_name hflag]
    simp only [Given.fill_of_has hhas]
    rfl

end

/-- The arguments of a command line. The texts that are read as a limit are the numerals, and every
limit below `2 ^ 64` has them, with a sign and with zeros in front or without. Whatever values are
chosen, the flags that give them are read in any order, to these values and to the defaults for
those that are left out. A flag that has been given a value is refused another one, whatever stands
between them and behind, if what is before the second one gives settings. -/
theorem ofArgs_flags :
    (∀ text n, readNumber text = .ok n ↔
      ∃ number : Numeral, number.text = text ∧ number.value = n) ∧
    (∀ n < 2 ^ 64, ∀ (signed : Bool) (zeros : Nat), ∃ number : Numeral, number.value = n ∧
      number.text =
        (if signed then "+" else "") ++ String.ofList (List.replicate zeros '0') ++ toString n) ∧
    (∀ (line args : Option Numeral) (file : Option String) (switches : Nat) (choices : List Choice),
      choices.Perm (Choice.selection line args file switches) →
      let maxLine := (line.map Numeral.value).getD 1000
      let maxArgs := (args.map Numeral.value).getD 100
      let settings : Settings := { maxLine, maxArgs, history := file, noBanner := 0 < switches }
      ofArgs (choices.flatMap Choice.arguments) = .ok settings ∧
        settings.limits = { maxLine, maxArgs }) ∧
    ∀ (flag : Flag) (earlier later after : List String) (value value' : String)
      (settings₁ settings₂ : Settings), flag ≠ .noBanner → ofArgs earlier = .ok settings₁ →
      let first := earlier ++ flag.name :: value :: later
      ofArgs first = .ok settings₂ →
      ∃ e, ofArgs (first ++ flag.name :: value' :: after) = .error e ∧
        (e = .badValue flag value' .duplicate ∨
          later.getLast? = some "--" ∧ e = .unrecognized flag.name) := by
  refine ⟨fun text n => readNumber_eq_ok_iff, fun n hn signed zeros => ?_, ?_, ?_⟩
  · exact exists_numeral (Nat.le_of_lt_succ hn) signed zeros
  · intro line args file switches choices hperm maxLine maxArgs settings
    obtain ⟨hadmits, hfold⟩ := perm_selection hperm
    have hread := readFrom_choices hadmits []
    rw [List.append_nil, hfold] at hread
    exact ⟨hread, rfl⟩
  · intro flag earlier later after value value' settings₁ settings₂ hflag hearlier first hfirst
    obtain ⟨g₁, ended₁, hread₁, -⟩ := exists_readFrom_append hearlier
    rw [ofArgs, hread₁] at hfirst
    cases ended₁ with
    | true => cases (readFrom_ended ..).symm.trans hfirst
    | false =>
      obtain ⟨g₂, ended₂, hhas, hended, hread₂⟩ := exists_has hflag hfirst
      have hagain : ofArgs (first ++ flag.name :: value' :: after) =
          readFrom g₂ false ended₂ (flag.name :: value' :: after) := by
        rw [ofArgs, List.append_assoc, hread₁, hread₂]
      refine ⟨_, hagain.trans (readFrom_of_has hhas ended₂ value' after), ?_⟩
      cases ended₂ with
      | false => exact .inl rfl
      | true => exact .inr ⟨hended rfl, rfl⟩

/-- Values that look like flags, spellings with a sign and with zeros, the largest number, and a
second value that is no number. -/
theorem ofArgs_flags_collisions :
    let seven : Numeral := ⟨true, "007".toList, by simp, by simp, by decide⟩
    let most : Numeral := ⟨false, "018446744073709551615".toList, by simp, by simp, by decide⟩
    let choices : List Choice :=
      [.noBanner, .maxArgs most, .history "--max-args", .noBanner, .maxLine seven]
    let first := ["--history", "help", "--max-line", "+007", "--no-banner"]
    (∃ number : Numeral, number.value = 7 ∧ number.text = "+007") ∧
    choices.Perm (Choice.selection (some seven) (some most) (some "--max-args") 2) ∧
    ofArgs ["--no-banner", "--max-args", "018446744073709551615", "--history", "--max-args",
      "--no-banner", "--max-line", "+007"] =
        .ok ⟨7, 18446744073709551615, some "--max-args", true⟩ ∧
    ofArgs ["--history", "help"] = .ok { history := some "help" } ∧
    ofArgs first = .ok { maxLine := 7, history := some "help", noBanner := true } ∧
    ofArgs (first ++ ["--max-line", "many", "--help"]) =
      .error (.badValue .maxLine "many" .duplicate) := by
  intro seven most choices first
  obtain ⟨-, hspelled, hchosen, htwice⟩ := ofArgs_flags
  have hseven : ∃ number : Numeral, number.value = 7 ∧ number.text = "+007" :=
    hspelled 7 (by decide) true 2
  have hperm : choices.Perm (Choice.selection (some seven) (some most) (some "--max-args") 2) := by
    decide +kernel
  have hearlier := (hchosen none none (some "help") 0 [.history "help"] (by decide +kernel)).1
  have hfirst := (hchosen (some seven) none (some "help") 1
    [.history "help", .maxLine seven, .noBanner] (by decide +kernel)).1
  refine ⟨hseven, hperm, (hchosen _ _ _ _ choices hperm).1, hearlier, hfirst, ?_⟩
  obtain ⟨e, herror, rfl | ⟨hdashes, -⟩⟩ :=
    htwice .maxLine ["--history", "help"] ["--no-banner"] ["--help"] "+007" "many" _ _ (by decide)
      hearlier hfirst
  · exact herror
  · exact absurd hdashes (by decide)

end PipeShell.Settings
