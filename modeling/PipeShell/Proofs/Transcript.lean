import PipeShell.Interaction

/-! # Transcripts

What is said in a conversation, as a list of exchanges: each question with the answer that it got.
`Leads p trace q` says that some partners could answer so that `p` has come to `q`, and `Holds p
trace value` that it has ended with `value`. Nothing is assumed of the answers, so a fact about all
transcripts is a fact about all partners, and about each point of each run (`holds_transcript`).

A transcript of a sequence is one of its first part followed by one of the rest (`holds_bind`,
`holds_run_bind`); with one equation for each question this takes the shell's programs apart. -/

namespace PipeShell

/-- A question and the answer that it got. -/
inductive Exchange where
  | write (text : String) (answer : Except IoError Unit)
  | flush (answer : Except IoError Unit)
  | readLine (prompt : String) (answer : Except ReadError Input)
  | saveHistory
  | currentDir (answer : Except IoError String)
  | changeDir (target : String) (answer : Except IoError Unit)
  | launch (command : Command) (answer : Except LaunchError (List Child))
  | interrupts (count : UInt64)
  | log (record : Log.Record)

namespace Exchange

/-- Whether the question was put to the output. -/
def isOutput : Exchange → Bool
  | write .. | flush _ => true
  | _ => false

/-- The failure of the output, if the answer is one. -/
def failure : Exchange → Option IoError
  | write _ (.error e) | flush (.error e) => some e
  | _ => none

def isLaunch : Exchange → Bool
  | launch .. => true
  | _ => false

/-- Whether the directory was changed. -/
def moves : Exchange → Bool
  | changeDir _ (.ok ()) => true
  | _ => false

theorem failure_of_not_isOutput {x : Exchange} (h : x.isOutput = false) : x.failure = none := by
  cases x <;> simp_all [isOutput, failure]

end Exchange

namespace Interaction

variable {α β σ : Type}

/-- One exchange, and what is left to say after it. -/
inductive Turn : Interaction α → Exchange → Interaction α → Prop
  | write {text next} (answer) : Turn (.write text next) (.write text answer) (next answer)
  | flush {next} (answer) : Turn (.flush next) (.flush answer) (next answer)
  | readLine {prompt next} (answer) :
    Turn (.readLine prompt next) (.readLine prompt answer) (next answer)
  | saveHistory {next} : Turn (.saveHistory next) .saveHistory next
  | currentDir {next} (answer) : Turn (.currentDir next) (.currentDir answer) (next answer)
  | changeDir {target next} (answer) :
    Turn (.changeDir target next) (.changeDir target answer) (next answer)
  | launch {command next} (answer) :
    Turn (.launch command next) (.launch command answer) (next answer)
  | interrupts {next} (count) : Turn (.interrupts next) (.interrupts count) (next count)
  | log {record next} : Turn (.log record next) (.log record) next

/-- The exchanges that bring a conversation from one point to another. -/
inductive Leads : Interaction α → List Exchange → Interaction α → Prop
  | refl {p} : Leads p [] p
  | step {p q r x trace} : Turn p x q → Leads q trace r → Leads p (x :: trace) r

/-- The exchanges that bring a conversation to its end. -/
def Holds (p : Interaction α) (trace : List Exchange) (value : α) : Prop :=
  p.Leads trace (done value)

theorem Turn.bind {p q : Interaction α} {x : Exchange} (h : Turn p x q) (f : α → Interaction β) :
    Turn (p.bind f) x (q.bind f) := by
  cases h <;> constructor

theorem Leads.bind {p q : Interaction α} {trace : List Exchange} (h : p.Leads trace q)
    (f : α → Interaction β) : (p.bind f).Leads trace (q.bind f) := by
  induction h with
  | refl => exact .refl
  | step hturn _ ih => exact .step (hturn.bind f) ih

theorem Leads.trans {p q r : Interaction α} {t₁ t₂ : List Exchange} (h₁ : p.Leads t₁ q)
    (h₂ : q.Leads t₂ r) : p.Leads (t₁ ++ t₂) r := by
  induction h₁ with
  | refl => exact h₂
  | step hturn _ ih => exact .step hturn (ih h₂)

theorem not_turn_done {value : α} {x : Exchange} {q : Interaction α} : ¬ Turn (done value) x q :=
  nofun

theorem holds_done {value result : α} {trace : List Exchange} :
    (done value).Holds trace result ↔ trace = [] ∧ result = value := by
  constructor
  · intro h
    cases h with
    | refl => exact ⟨rfl, rfl⟩
    | step hturn => exact (not_turn_done hturn).elim
  · rintro ⟨rfl, rfl⟩
    exact .refl

@[simp] theorem holds_pure {value result : α} {trace : List Exchange} :
    (pure value : Interaction α).Holds trace result ↔ trace = [] ∧ result = value := holds_done

/-- A turn of a sequence is one of its first part, as long as that has not ended. -/
theorem Turn.of_bind {p : Interaction α} {f : α → Interaction β} {x : Exchange} {r : Interaction β}
    (h : Turn (p.bind f) x r) :
    (∃ q, Turn p x q ∧ r = q.bind f) ∨ ∃ value, p = done value ∧ Turn (f value) x r := by
  cases p with
  | done value => exact .inr ⟨value, rfl, h⟩
  | _ => left; cases h; exact ⟨_, by constructor, rfl⟩

theorem holds_bind' {p : Interaction α} {f : α → Interaction β} {trace : List Exchange}
    {result : β} :
    (p.bind f).Holds trace result ↔
      ∃ t₁ t₂ value, trace = t₁ ++ t₂ ∧ p.Holds t₁ value ∧ (f value).Holds t₂ result := by
  constructor
  · intro h
    induction trace generalizing p with
    | nil =>
      cases p with
      | done value => exact ⟨[], [], value, rfl, .refl, h⟩
      | _ => cases h
    | cons x trace ih =>
      rcases h with _ | ⟨hturn, hrest⟩
      rcases hturn.of_bind with ⟨q, hq, rfl⟩ | ⟨value, rfl, hvalue⟩
      · obtain ⟨t₁, t₂, value, rfl, h₁, h₂⟩ := ih hrest
        exact ⟨x :: t₁, t₂, value, rfl, .step hq h₁, h₂⟩
      · exact ⟨[], x :: trace, value, rfl, .refl, .step hvalue hrest⟩
  · rintro ⟨t₁, t₂, value, rfl, h₁, h₂⟩
    exact (h₁.bind f).trans h₂

/-- A transcript of a sequence is one of its first part, followed by one of the rest. -/
theorem holds_bind {p : Interaction α} {f : α → Interaction β} {trace : List Exchange}
    {result : β} :
    (p >>= f).Holds trace result ↔
      ∃ t₁ t₂ value, trace = t₁ ++ t₂ ∧ p.Holds t₁ value ∧ (f value).Holds t₂ result := holds_bind'

theorem Turn.unique {p q r : Interaction α} {x : Exchange} (h₁ : Turn p x q) (h₂ : Turn p x r) :
    q = r := by
  cases h₁ <;> cases h₂ <;> rfl

/-- What is said determines the value. -/
theorem Holds.unique {p : Interaction α} {trace : List Exchange} {a b : α} (h₁ : p.Holds trace a)
    (h₂ : p.Holds trace b) : a = b := by
  induction trace generalizing p with
  | nil =>
    obtain _ | _ := h₁
    exact (holds_done.mp h₂).2.symm
  | cons x trace ih =>
    rcases h₁ with _ | ⟨hturn₁, h₁⟩
    rcases h₂ with _ | ⟨hturn₂, h₂⟩
    obtain rfl := hturn₁.unique hturn₂
    exact ih h₁ h₂

/-- Where the first part of a sequence has ended, the rest goes on. -/
theorem Holds.of_bind {p : Interaction α} {f : α → Interaction β} {t₁ t₂ : List Exchange}
    {value : α} {result : β} (hfirst : p.Holds t₁ value)
    (h : (p >>= f).Holds (t₁ ++ t₂) result) : (f value).Holds t₂ result := by
  induction t₁ generalizing p with
  | nil =>
    obtain _ | _ := hfirst
    exact h
  | cons x t₁ ih =>
    rcases hfirst with _ | ⟨hturn, hfirst⟩
    rcases h with _ | ⟨hturn', h⟩
    obtain rfl := (hturn.bind f).unique hturn'
    exact ih hfirst h

/-! ## Conversations that can fail -/

section
variable {ε : Type}

@[simp] theorem holds_run_pure {a : α} {trace : List Exchange} {result : Except ε α} :
    (pure a : ExceptT ε Interaction α).run.Holds trace result ↔ trace = [] ∧ result = .ok a :=
  holds_done

@[simp] theorem holds_run_throw {e : ε} {trace : List Exchange} {result : Except ε α} :
    (throw e : ExceptT ε Interaction α).run.Holds trace result ↔ trace = [] ∧ result = .error e :=
  holds_done

theorem holds_run_lift {p : Interaction α} {trace : List Exchange} {result : Except ε α} :
    (ExceptT.lift p : ExceptT ε Interaction α).run.Holds trace result ↔
      ∃ a, p.Holds trace a ∧ result = .ok a := by
  rw [ExceptT.run_lift, map_eq_pure_bind, holds_bind]
  constructor
  · rintro ⟨t₁, t₂, a, rfl, h, h'⟩
    obtain ⟨rfl, rfl⟩ := holds_pure.mp h'
    exact ⟨a, by simpa using h, rfl⟩
  · rintro ⟨a, h, rfl⟩
    exact ⟨trace, [], a, by simp, h, holds_pure.mpr ⟨rfl, rfl⟩⟩

/-- A sequence fails as its first part does, or goes on with the rest. -/
theorem holds_run_bind {m : ExceptT ε Interaction α} {f : α → ExceptT ε Interaction β}
    {trace : List Exchange} {result : Except ε β} :
    (m >>= f).run.Holds trace result ↔
      (∃ e, m.run.Holds trace (.error e) ∧ result = .error e) ∨
        ∃ t₁ t₂ a, trace = t₁ ++ t₂ ∧ m.run.Holds t₁ (.ok a) ∧ (f a).run.Holds t₂ result := by
  rw [ExceptT.run_bind, holds_bind]
  constructor
  · rintro ⟨t₁, t₂, r, rfl, h₁, h₂⟩
    cases r with
    | error e =>
      obtain ⟨rfl, rfl⟩ := holds_pure.mp h₂
      exact .inl ⟨e, by simpa using h₁, rfl⟩
    | ok a => exact .inr ⟨t₁, t₂, a, rfl, h₁, h₂⟩
  · rintro (⟨e, h, rfl⟩ | ⟨t₁, t₂, a, rfl, h₁, h₂⟩)
    · exact ⟨trace, [], .error e, by simp, h, holds_pure.mpr ⟨rfl, rfl⟩⟩
    · exact ⟨t₁, t₂, .ok a, rfl, h₁, h₂⟩

/-- What only changes the value says nothing more. -/
theorem holds_run_bind_pure {m : ExceptT ε Interaction α} {f : α → β} {trace : List Exchange}
    {result : Except ε β} :
    (m >>= fun a => pure (f a)).run.Holds trace result ↔
      ∃ first, m.run.Holds trace first ∧ result = first.map f := by
  rw [holds_run_bind]
  constructor
  · rintro (⟨e, hfails, rfl⟩ | ⟨t₁, t₂, a, rfl, h₁, h₂⟩)
    · exact ⟨.error e, hfails, rfl⟩
    · obtain ⟨rfl, rfl⟩ := holds_run_pure.mp h₂
      exact ⟨.ok a, by simpa using h₁, rfl⟩
  · rintro ⟨first, h, rfl⟩
    cases first with
    | error e => exact .inl ⟨e, h, rfl⟩
    | ok a => exact .inr ⟨trace, [], a, by simp, h, holds_run_pure.mpr ⟨rfl, rfl⟩⟩

/-- What cannot fail leads on to the rest. -/
theorem holds_run_lift_bind {p : Interaction α} {f : α → ExceptT ε Interaction β}
    {trace : List Exchange} {result : Except ε β} :
    (ExceptT.lift p >>= f).run.Holds trace result ↔
      ∃ t₁ t₂ a, trace = t₁ ++ t₂ ∧ p.Holds t₁ a ∧ (f a).run.Holds t₂ result := by
  rw [holds_run_bind]
  constructor
  · rintro (⟨e, hfails, -⟩ | ⟨t₁, t₂, a, rfl, h₁, h₂⟩)
    · obtain ⟨_, -, hok⟩ := holds_run_lift.mp hfails
      cases hok
    · obtain ⟨_, h₁, hok⟩ := holds_run_lift.mp h₁
      cases hok
      exact ⟨t₁, t₂, a, rfl, h₁, h₂⟩
  · rintro ⟨t₁, t₂, a, rfl, h₁, h₂⟩
    exact .inr ⟨t₁, t₂, a, rfl, holds_run_lift.mpr ⟨a, h₁, rfl⟩, h₂⟩

end

/-! ## One question -/

/-- A conversation that puts one question and ends with the answer. -/
theorem holds_of_turn_iff {p : Interaction α} (ask : α → Exchange)
    (hp : ∀ x q, Turn p x q ↔ ∃ answer, x = ask answer ∧ q = done answer)
    {trace : List Exchange} {result : α} : p.Holds trace result ↔ trace = [ask result] := by
  constructor
  · intro h
    rcases h with _ | ⟨hturn, hrest⟩
    · exact (not_turn_done ((hp _ _).mpr ⟨result, rfl, rfl⟩)).elim
    · obtain ⟨answer, rfl, rfl⟩ := (hp _ _).mp hturn
      obtain ⟨rfl, rfl⟩ := holds_done.mp hrest
      rfl
  · rintro rfl
    exact .step ((hp _ _).mpr ⟨result, rfl, rfl⟩) .refl

theorem holds_note {source : Log.Source} {level : Log.Level} {text : String}
    {trace : List Exchange} {result : Unit} :
    (note source level text).Holds trace result ↔ trace = [.log ⟨source, level, text⟩] :=
  holds_of_turn_iff (fun _ => .log ⟨source, level, text⟩) fun _ _ =>
    ⟨by rintro ⟨⟩; exact ⟨(), rfl, rfl⟩, by rintro ⟨_, rfl, rfl⟩; constructor⟩

end Interaction

namespace Output
open Interaction

variable {trace : List Exchange}

theorem holds_writeLine {text : String} {result : Except IoError Unit} :
    (writeLine text).run.Holds trace result ↔ trace = [.write (text ++ "\n") result] :=
  holds_of_turn_iff (.write (text ++ "\n")) fun _ _ =>
    ⟨by rintro ⟨⟩; exact ⟨_, rfl, rfl⟩, by rintro ⟨_, rfl, rfl⟩; constructor⟩

theorem holds_flush {result : Except IoError Unit} :
    flush.run.Holds trace result ↔ trace = [.flush result] :=
  holds_of_turn_iff .flush fun _ _ =>
    ⟨by rintro ⟨⟩; exact ⟨_, rfl, rfl⟩, by rintro ⟨_, rfl, rfl⟩; constructor⟩

/-- A question to another partner: whatever the answer, the output has not failed. -/
theorem holds_lift_of_turn_iff {α : Type} {p : Interaction α} (ask : α → Exchange)
    (hp : ∀ x q, Turn p x q ↔ ∃ answer, x = ask answer ∧ q = done answer)
    {result : Except IoError α} :
    (ExceptT.lift p : Output α).run.Holds trace result ↔
      ∃ answer, trace = [ask answer] ∧ result = .ok answer := by
  simp only [holds_run_lift, holds_of_turn_iff ask hp]

theorem holds_readLine {prompt : String} {result : Except IoError (Except ReadError Input)} :
    (readLine prompt).run.Holds trace result ↔
      ∃ answer, trace = [.readLine prompt answer] ∧ result = .ok answer :=
  holds_lift_of_turn_iff (.readLine prompt) fun _ _ =>
    ⟨by rintro ⟨⟩; exact ⟨_, rfl, rfl⟩, by rintro ⟨_, rfl, rfl⟩; constructor⟩

theorem holds_currentDir {result : Except IoError (Except IoError String)} :
    currentDir.run.Holds trace result ↔
      ∃ answer, trace = [.currentDir answer] ∧ result = .ok answer :=
  holds_lift_of_turn_iff .currentDir fun _ _ =>
    ⟨by rintro ⟨⟩; exact ⟨_, rfl, rfl⟩, by rintro ⟨_, rfl, rfl⟩; constructor⟩

theorem holds_changeDir {target : String} {result : Except IoError (Except IoError Unit)} :
    (changeDir target).run.Holds trace result ↔
      ∃ answer, trace = [.changeDir target answer] ∧ result = .ok answer :=
  holds_lift_of_turn_iff (.changeDir target) fun _ _ =>
    ⟨by rintro ⟨⟩; exact ⟨_, rfl, rfl⟩, by rintro ⟨_, rfl, rfl⟩; constructor⟩

theorem holds_launch {command : Command}
    {result : Except IoError (Except LaunchError (List Child))} :
    (launch command).run.Holds trace result ↔
      ∃ answer, trace = [.launch command answer] ∧ result = .ok answer :=
  holds_lift_of_turn_iff (.launch command) fun _ _ =>
    ⟨by rintro ⟨⟩; exact ⟨_, rfl, rfl⟩, by rintro ⟨_, rfl, rfl⟩; constructor⟩

theorem holds_interrupts {result : Except IoError UInt64} :
    interrupts.run.Holds trace result ↔
      ∃ count, trace = [.interrupts count] ∧ result = .ok count :=
  holds_lift_of_turn_iff .interrupts fun _ _ =>
    ⟨by rintro ⟨⟩; exact ⟨_, rfl, rfl⟩, by rintro ⟨_, rfl, rfl⟩; constructor⟩

theorem holds_note {source : Log.Source} {level : Log.Level} {text : String}
    {result : Except IoError Unit} :
    (note source level text).run.Holds trace result ↔
      trace = [.log ⟨source, level, text⟩] ∧ result = .ok () := by
  simp only [note, holds_run_lift, Interaction.holds_note]
  exact ⟨fun ⟨_, h⟩ => h, fun h => ⟨(), h⟩⟩

/-! A question to another partner is answered, and then the rest goes on. -/

section
variable {α β : Type} {result : Except IoError β}

theorem holds_bind_of_ask {m : Output α} {f : α → Output β} (ask : α → Exchange)
    (hm : ∀ trace result, m.run.Holds trace result ↔
      ∃ answer, trace = [ask answer] ∧ result = .ok answer) :
    (m >>= f).run.Holds trace result ↔
      ∃ answer rest, trace = ask answer :: rest ∧ (f answer).run.Holds rest result := by
  rw [holds_run_bind]
  constructor
  · rintro (⟨e, hfails, -⟩ | ⟨t₁, t₂, a, rfl, h₁, h₂⟩)
    · obtain ⟨_, -, hok⟩ := (hm _ _).mp hfails
      cases hok
    · obtain ⟨_, rfl, hok⟩ := (hm _ _).mp h₁
      cases hok
      exact ⟨a, t₂, rfl, h₂⟩
  · rintro ⟨a, rest, rfl, h⟩
    exact .inr ⟨[ask a], rest, a, rfl, (hm _ _).mpr ⟨a, rfl, rfl⟩, h⟩

theorem holds_readLine_bind {prompt : String} {f : Except ReadError Input → Output β} :
    (readLine prompt >>= f).run.Holds trace result ↔
      ∃ answer rest, trace = .readLine prompt answer :: rest ∧ (f answer).run.Holds rest result :=
  holds_bind_of_ask (.readLine prompt) fun _ _ => holds_readLine

theorem holds_changeDir_bind {target : String} {f : Except IoError Unit → Output β} :
    (changeDir target >>= f).run.Holds trace result ↔
      ∃ answer rest, trace = .changeDir target answer :: rest ∧ (f answer).run.Holds rest result :=
  holds_bind_of_ask (.changeDir target) fun _ _ => holds_changeDir

theorem holds_note_bind {source : Log.Source} {level : Log.Level} {text : String}
    {f : Unit → Output β} :
    (note source level text >>= f).run.Holds trace result ↔
      ∃ rest, trace = .log ⟨source, level, text⟩ :: rest ∧ (f ()).run.Holds rest result := by
  rw [holds_bind_of_ask fun _ => .log ⟨source, level, text⟩]
  · exact ⟨fun ⟨_, h⟩ => h, fun h => ⟨(), h⟩⟩
  · exact fun _ _ => holds_note.trans ⟨fun h => ⟨(), h⟩, fun ⟨_, h⟩ => h⟩

end

end Output

/-! ## Partners -/

namespace Interaction

variable {α β σ : Type}

section
variable (partners : Surroundings σ)

/-- What is said when these partners answer. -/
def transcript : Interaction α → σ → List Exchange
  | done _, _ => []
  | write text next, s =>
    let (answer, s) := partners.write text s
    .write text answer :: (next answer).transcript s
  | flush next, s =>
    let (answer, s) := partners.flush s
    .flush answer :: (next answer).transcript s
  | readLine prompt next, s =>
    let (answer, s) := partners.readLine prompt s
    .readLine prompt answer :: (next answer).transcript s
  | saveHistory next, s => .saveHistory :: next.transcript (partners.saveHistory s)
  | currentDir next, s =>
    let (answer, s) := partners.currentDir s
    .currentDir answer :: (next answer).transcript s
  | changeDir target next, s =>
    let (answer, s) := partners.changeDir target s
    .changeDir target answer :: (next answer).transcript s
  | launch command next, s =>
    let (answer, s) := partners.launch command s
    .launch command answer :: (next answer).transcript s
  | interrupts next, s =>
    let (answer, s) := partners.interrupts s
    .interrupts answer :: (next answer).transcript s
  | log record next, s => .log record :: next.transcript (partners.log record s)

/-- Each run has a transcript. -/
theorem holds_transcript (p : Interaction α) (s : σ) :
    p.Holds (p.transcript partners s) (p.run partners s).1 := by
  induction p generalizing s with
  | done value => exact .refl
  | saveHistory next ih => exact .step .saveHistory (ih _)
  | log record next ih => exact .step .log (ih _)
  | _ => rename_i ih; exact .step (by constructor) (ih _ _)

theorem transcript_bind (p : Interaction α) (f : α → Interaction β) (s : σ) :
    (p >>= f).transcript partners s =
      p.transcript partners s ++
        (f (p.run partners s).1).transcript partners (p.run partners s).2 := by
  change (p.bind f).transcript partners s = _
  induction p generalizing s <;> simp [Interaction.bind, transcript, run, *]

end

/-- A part of the partners' state that moves only when the directory is changed: what each other
question leaves alone, and a failed change too. -/
structure MovesOnly {δ : Type} (partners : Surroundings σ) (view : σ → δ) : Prop where
  write : ∀ text s, view (partners.write text s).2 = view s
  flush : ∀ s, view (partners.flush s).2 = view s
  readLine : ∀ prompt s, view (partners.readLine prompt s).2 = view s
  saveHistory : ∀ s, view (partners.saveHistory s) = view s
  currentDir : ∀ s, view (partners.currentDir s).2 = view s
  changeDir : ∀ target s e, (partners.changeDir target s).1 = .error e →
    view (partners.changeDir target s).2 = view s
  launch : ∀ command s, view (partners.launch command s).2 = view s
  interrupts : ∀ s, view (partners.interrupts s).2 = view s
  log : ∀ record s, view (partners.log record s) = view s

/-- Nothing moves where the directory has not been changed. -/
theorem MovesOnly.run_eq {δ : Type} {partners : Surroundings σ} {view : σ → δ}
    (hview : MovesOnly partners view) (p : Interaction α) (s : σ)
    (h : ∀ x ∈ p.transcript partners s, x.moves = false) :
    view (p.run partners s).2 = view s := by
  induction p generalizing s with
  | done value => rfl
  | write text next ih =>
    exact (ih _ _ fun x hx => h x (.tail _ hx)).trans (hview.write text s)
  | flush next ih => exact (ih _ _ fun x hx => h x (.tail _ hx)).trans (hview.flush s)
  | readLine prompt next ih =>
    exact (ih _ _ fun x hx => h x (.tail _ hx)).trans (hview.readLine prompt s)
  | saveHistory next ih => exact (ih _ fun x hx => h x (.tail _ hx)).trans (hview.saveHistory s)
  | currentDir next ih => exact (ih _ _ fun x hx => h x (.tail _ hx)).trans (hview.currentDir s)
  | changeDir target next ih =>
    refine (ih _ _ fun x hx => h x (.tail _ hx)).trans ?_
    have hstays := h _ (.head _)
    cases hanswer : (partners.changeDir target s).1 with
    | error e => exact hview.changeDir target s e hanswer
    | ok _ => simp [Exchange.moves, hanswer] at hstays
  | launch command next ih =>
    exact (ih _ _ fun x hx => h x (.tail _ hx)).trans (hview.launch command s)
  | interrupts next ih => exact (ih _ _ fun x hx => h x (.tail _ hx)).trans (hview.interrupts s)
  | log record next ih => exact (ih _ fun x hx => h x (.tail _ hx)).trans (hview.log record s)

end Interaction
end PipeShell
