import PipeShell.Input
import PipeShell.Launch.Basic
import PipeShell.Log

/-! # Interactions

The shell speaks to four partners: its output, its line source, its working directory and its
launcher. An `Interaction` is all that it may say to them, as data: each question carries the
continuation for every answer. A run is an interaction together with `Surroundings` that answer;
nothing about the partners is built into the shell. -/

namespace PipeShell

/-- A conversation that ends with a value. -/
inductive Interaction (α : Type) where
  | done (value : α)
  /-- Offers a text to the output. On failure a prefix of its bytes may have been accepted. -/
  | write (text : String) (next : Except IoError Unit → Interaction α)
  | flush (next : Except IoError Unit → Interaction α)
  | readLine (prompt : String) (next : Except ReadError Input → Interaction α)
  | saveHistory (next : Interaction α)
  | currentDir (next : Except IoError String → Interaction α)
  | changeDir (target : String) (next : Except IoError Unit → Interaction α)
  | launch (command : Command) (next : Except LaunchError (List Child) → Interaction α)
  /-- Reads the number of interrupts seen so far. -/
  | interrupts (next : UInt64 → Interaction α)
  | log (record : Log.Record) (next : Interaction α)

namespace Interaction

variable {α β γ : Type}

/-- Goes on with `f` once `p` has its value. -/
protected def bind (p : Interaction α) (f : α → Interaction β) : Interaction β :=
  match p with
  | done value => f value
  | write text next => write text fun answer => (next answer).bind f
  | flush next => flush fun answer => (next answer).bind f
  | readLine prompt next => readLine prompt fun answer => (next answer).bind f
  | saveHistory next => saveHistory (next.bind f)
  | currentDir next => currentDir fun answer => (next answer).bind f
  | changeDir target next => changeDir target fun answer => (next answer).bind f
  | launch command next => launch command fun answer => (next answer).bind f
  | interrupts next => interrupts fun answer => (next answer).bind f
  | log record next => log record (next.bind f)

instance : Monad Interaction where
  pure := done
  bind := Interaction.bind

theorem bind_done (p : Interaction α) : p.bind done = p := by
  induction p <;> simp [Interaction.bind, *]

theorem bind_assoc (p : Interaction α) (f : α → Interaction β) (g : β → Interaction γ) :
    (p.bind f).bind g = p.bind fun a => (f a).bind g := by
  induction p <;> simp [Interaction.bind, *]

instance : LawfulMonad Interaction :=
  LawfulMonad.mk' Interaction (fun p => bind_done p) (fun _ _ => rfl) bind_assoc

/-- A record of this source and level. -/
def note (source : Log.Source) (level : Log.Level) (text : String) : Interaction Unit :=
  log ⟨source, level, text⟩ (done ())

end Interaction

/-- A conversation whose output can fail. A failure ends it. -/
abbrev Output := ExceptT IoError Interaction

namespace Output

/-- Writes a text and the end of its line. -/
def writeLine (text : String) : Output Unit := ExceptT.mk (.write (text ++ "\n") .done)

def flush : Output Unit := ExceptT.mk (.flush .done)

/-! The other partners' failures are answers, not failures of the output. -/

def readLine (prompt : String) : Output (Except ReadError Input) :=
  ExceptT.lift (.readLine prompt .done)

def currentDir : Output (Except IoError String) := ExceptT.lift (.currentDir .done)

def changeDir (target : String) : Output (Except IoError Unit) :=
  ExceptT.lift (.changeDir target .done)

def launch (command : Command) : Output (Except LaunchError (List Child)) :=
  ExceptT.lift (.launch command .done)

def interrupts : Output UInt64 := ExceptT.lift (.interrupts .done)

def note (source : Log.Source) (level : Log.Level) (text : String) : Output Unit :=
  ExceptT.lift (Interaction.note source level text)

end Output

/-! ## Answers -/

/-- Partners that answer from a state. -/
structure Surroundings (σ : Type) where
  write : String → σ → Except IoError Unit × σ
  flush : σ → Except IoError Unit × σ
  readLine : String → σ → Except ReadError Input × σ
  saveHistory : σ → σ
  currentDir : σ → Except IoError String × σ
  changeDir : String → σ → Except IoError Unit × σ
  launch : Command → σ → Except LaunchError (List Child) × σ
  interrupts : σ → UInt64 × σ
  log : Log.Record → σ → σ

namespace Interaction

variable {α β σ : Type}

/-- Holds the conversation: its value and the state in which it leaves the partners. -/
def run (partners : Surroundings σ) : Interaction α → σ → α × σ
  | done value, s => (value, s)
  | write text next, s =>
    let (answer, s) := partners.write text s
    (next answer).run partners s
  | flush next, s =>
    let (answer, s) := partners.flush s
    (next answer).run partners s
  | readLine prompt next, s =>
    let (answer, s) := partners.readLine prompt s
    (next answer).run partners s
  | saveHistory next, s => next.run partners (partners.saveHistory s)
  | currentDir next, s =>
    let (answer, s) := partners.currentDir s
    (next answer).run partners s
  | changeDir target next, s =>
    let (answer, s) := partners.changeDir target s
    (next answer).run partners s
  | launch command next, s =>
    let (answer, s) := partners.launch command s
    (next answer).run partners s
  | interrupts next, s =>
    let (answer, s) := partners.interrupts s
    (next answer).run partners s
  | log record next, s => next.run partners (partners.log record s)

@[simp] theorem run_done (partners : Surroundings σ) (value : α) (s : σ) :
    (done value).run partners s = (value, s) := rfl

theorem run_bind (partners : Surroundings σ) (p : Interaction α) (f : α → Interaction β) (s : σ) :
    (p.bind f).run partners s =
      (f (p.run partners s).1).run partners (p.run partners s).2 := by
  induction p generalizing s <;> simp [Interaction.bind, run, *]

end Interaction
end PipeShell
