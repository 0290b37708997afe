import PipeShell.Editor.Basic
import PipeShell.Proofs.Partners

/-! # Calls of the editor

What the editor has its reader of lines do, as a list of calls with the answers that they got.
`Makes p calls value` says that the reader could answer so that `p` ends with `value`; nothing is
assumed of the answers. An item and the saving of the history are the two questions of a session
that are put to the editor, and `Behind` says which calls are made for them. If the reader keeps
every line that it is given, the lines that it is given for an item are those of the item, unless
that is blank (`Behind.linesAdded_eq`). -/

namespace PipeShell

namespace Exchange

/-- Whether the question is one for the editor. -/
def edits : Exchange → Bool
  | readLine .. | saveHistory => true
  | _ => false

end Exchange

/-- The line that was read. -/
def Item.line? : Item → Option String
  | .ok (.line line) => some line
  | _ => none

namespace Editor

/-- A call on the reader of lines and the answer that it got. -/
inductive Call where
  | attempt (prompt : String) (answer : Except ReadError String)
  | add (line : String) (answer : Except ReadError Unit)
  | save (file : String) (answer : Except IoError Unit)
  | log (record : Log.Record)

/-- The line that is given to the history. -/
def Call.added? : Call → Option String
  | add line _ => some line
  | _ => none

/-- The lines that are given to the history, in order. -/
def linesAdded (calls : List Call) : List String := calls.filterMap Call.added?

@[simp] theorem linesAdded_append {calls₁ calls₂ : List Call} :
    linesAdded (calls₁ ++ calls₂) = linesAdded calls₁ ++ linesAdded calls₂ := List.filterMap_append

/-- The history takes every line that it is given. -/
def Takes (calls : List Call) : Prop := ∀ line e, Call.add line (.error e) ∉ calls

theorem takes_cons {call : Call} {calls : List Call} :
    Takes (call :: calls) ↔ (∀ line e, call ≠ .add line (.error e)) ∧ Takes calls := by
  simp only [Takes, List.mem_cons, not_or, forall_and, ne_eq, eq_comm]

namespace Editing

variable {α : Type}

/-- The calls that are made, and the value. -/
inductive Makes : Editing α → List Call → α → Prop
  | done {value} : Makes (.done value) [] value
  | attempt {prompt next calls value} (answer) : Makes (next answer) calls value →
    Makes (.attempt prompt next) (.attempt prompt answer :: calls) value
  | add {line next calls value} (answer) : Makes (next answer) calls value →
    Makes (.add line next) (.add line answer :: calls) value
  | save {file next calls value} (answer) : Makes (next answer) calls value →
    Makes (.save file next) (.save file answer :: calls) value
  | log {record next calls value} : Makes next calls value →
    Makes (.log record next) (.log record :: calls) value

section
variable {σ : Type} (reader : LineReader σ)

/-- The calls that are made when this reader answers. -/
def calls : Editing α → σ → List Call
  | done _, _ => []
  | attempt prompt next, s =>
    let (answer, s) := reader.attempt prompt s
    .attempt prompt answer :: (next answer).calls s
  | add line next, s =>
    let (answer, s) := reader.add line s
    .add line answer :: (next answer).calls s
  | save file next, s =>
    let (answer, s) := reader.save file s
    .save file answer :: (next answer).calls s
  | log record next, s => .log record :: next.calls (reader.log record s)

theorem makes_calls (p : Editing α) (s : σ) : p.Makes (p.calls reader s) (p.run reader s).1 := by
  induction p generalizing s with
  | done value => exact .done
  | attempt prompt next ih => exact .attempt _ (ih _ _)
  | add line next ih => exact .add _ (ih _ _)
  | save file next ih => exact .save _ (ih _ _)
  | log record next ih => exact .log (ih _)

theorem takes_calls (hadd : ∀ line s, (reader.add line s).1 = .ok ()) (p : Editing α) (s : σ) :
    Takes (p.calls reader s) := by
  induction p generalizing s with
  | done value => exact fun _ _ => List.not_mem_nil
  | attempt prompt next ih => exact takes_cons.mpr ⟨nofun, ih _ _⟩
  | add line next ih =>
    refine takes_cons.mpr ⟨fun line' e hcall => ?_, ih _ _⟩
    rw [hadd] at hcall
    cases hcall
  | save file next ih => exact takes_cons.mpr ⟨nofun, ih _ _⟩
  | log record next ih => exact takes_cons.mpr ⟨nofun, ih _⟩

end
end Editing

/-! ## Items -/

/-- What becomes of an attempt to read a line. -/
inductive Fetching (prompt : String) : List Call → Item → Prop
  | blank {line} : Text.allBlank line = true →
    Fetching prompt [.attempt prompt (.ok line)] (.ok (.line line))
  | added {line} : Text.allBlank line = false →
    Fetching prompt [.attempt prompt (.ok line), .add line (.ok ())] (.ok (.line line))
  | refused {line e} : Text.allBlank line = false →
    Fetching prompt [.attempt prompt (.ok line), .add line (.error e)] (.error e)
  | interrupted : Fetching prompt [.attempt prompt (.error .interrupted)] (.ok .interrupted)
  | endOfInput : Fetching prompt [.attempt prompt (.error .endOfInput)] (.ok .endOfInput)
  | failed {e} : Fetching prompt [.attempt prompt (.error e)] (.error e)

theorem Fetching.of_makes {prompt : String} {calls : List Call} {item : Item}
    (h : (readLine prompt).Makes calls item) : Fetching prompt calls item := by
  obtain _ | ⟨answer, h⟩ := h
  cases answer with
  | ok line =>
    cases hblank : Text.allBlank line with
    | true =>
      simp only [accepting, hblank, if_true] at h
      obtain _ | _ := h
      exact .blank hblank
    | false =>
      simp only [accepting, hblank, Bool.false_eq_true, if_false] at h
      rcases h with _ | _ | ⟨answer, h⟩
      cases answer with
      | ok =>
        obtain _ | _ := h
        exact .added hblank
      | error e =>
        obtain _ | _ := h
        exact .refused hblank
  | error e =>
    cases e with
    | interrupted =>
      obtain _ | _ := h
      exact .interrupted
    | endOfInput =>
      obtain _ | _ := h
      exact .endOfInput
    | resized | io =>
      obtain _ | _ := h
      exact .failed

/-! ## The calls behind a session -/

/-- The calls that are made for an exchange, by an editor whose history has this file. -/
inductive Behind (path : Option String) : Exchange → List Call → Prop
  | readLine {prompt item calls} : (readLine prompt).Makes calls item →
    Behind path (.readLine prompt item) calls
  | saveHistory {calls} : ({ path } : Editor).saveHistory.Makes calls () →
    Behind path .saveHistory calls
  | other {x : Exchange} : x.edits = false → Behind path x []

namespace Behind

variable {path : Option String} {x : Exchange} {calls : List Call}

theorem eq_nil (h : Behind path x calls) (hx : x.edits = false) : calls = [] := by
  cases h with
  | readLine | saveHistory => cases hx
  | other => rfl

/-- The calls that save a history. -/
theorem of_saveHistory (h : Behind path .saveHistory calls) :
    (path = none ∧ calls = []) ∨ ∃ file, path = some file ∧
      (calls = [.save file (.ok ())] ∨
        ∃ e, calls = [.save file (.error e), .log (saveFailed file e)]) := by
  obtain _ | h | hx := h
  · cases path with
    | none =>
      obtain _ | _ := h
      exact .inl ⟨rfl, rfl⟩
    | some file =>
      rcases h with _ | _ | _ | ⟨answer, h⟩
      cases answer with
      | ok =>
        obtain _ | _ := h
        exact .inr ⟨file, rfl, .inl rfl⟩
      | error e =>
        rcases h with _ | _ | _ | _ | h
        obtain _ | _ := h
        exact .inr ⟨file, rfl, .inr ⟨e, rfl⟩⟩
  · cases hx

/-- A line that was read has been added, unless it is blank. -/
theorem calls_of_line {prompt line : String}
    (h : Behind path (.readLine prompt (.ok (.line line))) calls) :
    calls = .attempt prompt (.ok line) ::
      if Text.allBlank line then [] else [.add line (.ok ())] := by
  obtain h | _ | hx := h
  · cases Fetching.of_makes h with
    | blank hblank | added hblank => simp [hblank]
  · cases hx

theorem linesAdded_eq (h : Behind path x calls) (htakes : Takes calls) :
    linesAdded calls = (x.item?.toList.filterMap Item.line?).filter (!Text.allBlank ·) := by
  cases h with
  | readLine h =>
    cases Fetching.of_makes h with
    | blank hblank =>
      simp [linesAdded, Call.added?, Exchange.item?, Item.line?, hblank]
    | added hblank =>
      simp [Exchange.item?, Item.line?, hblank]
      rfl
    | refused => exact absurd (.tail _ (.head _)) (htakes _ _)
    | interrupted | endOfInput | failed => rfl
  | saveHistory h =>
    rcases of_saveHistory (.saveHistory h) with ⟨-, rfl⟩ | ⟨file, -, rfl | ⟨e, rfl⟩⟩ <;> rfl
  | other hx =>
    cases x with
    | readLine => cases hx
    | _ => rfl

/-- The history is written to its file by nothing but saving it. -/
theorem save_not_mem (h : Behind path x calls) (hx : x ≠ .saveHistory) (file : String)
    (answer : Except IoError Unit) : .save file answer ∉ calls := by
  cases h with
  | readLine h => cases Fetching.of_makes h <;> simp
  | saveHistory => exact absurd rfl hx
  | other => exact List.not_mem_nil

end Behind
end Editor
end PipeShell
