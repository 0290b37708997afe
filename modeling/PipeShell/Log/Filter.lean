import PipeShell.Log
import PipeShell.Text.Blank
import PipeShell.Text.Pattern.Meaning

/-! # Log filters

A filter is written as directives between commas, each a level for the sources whose names begin
with its target, or for all sources if it names none. The directive with the longest target that
fits decides. After a slash may stand a pattern that every record has to show. -/

namespace PipeShell.Log

structure Directive where
  /-- What the source's name begins with; nothing fits every source. -/
  target : Option String
  /-- The most detailed level that is shown; nothing if none is. -/
  most : Option Level
  deriving DecidableEq, Repr

namespace Directive

def fits (d : Directive) (source : Source) : Bool :=
  match d.target with
  | none => true
  | some target => source.name.startsWith target

def weight (d : Directive) : Nat := (d.target.map String.utf8ByteSize).getD 0

end Directive

/-- The directives, one for each target, and the pattern. -/
structure Filter where
  directives : List Directive := []
  pattern : Option Text.Pattern := none

namespace Filter

/-- A filter without directives shows errors only. -/
def effective (f : Filter) : List Directive :=
  if f.directives.isEmpty then [⟨none, some .error⟩] else f.directives

/-- The directive that decides on a source: of two with targets of one length the later. -/
def deciding? (f : Filter) (source : Source) : Option Directive :=
  (f.effective.filter (·.fits source)).foldl
    (fun best d => match best with
      | none => some d
      | some b => if b.weight ≤ d.weight then some d else best)
    none

def shows (f : Filter) (r : Record) : Bool :=
  let level := match f.deciding? r.source with
    | some ⟨_, some most⟩ => r.level.detail ≤ most.detail
    | _ => false
  level && match f.pattern with
    | some p => p.occursIn r.text
    | none => true

/-- Puts a directive in the place of one with its target, or at the end. -/
def insert (f : Filter) (d : Directive) : Filter :=
  let directives :=
    if f.directives.any (·.target == d.target) then
      f.directives.map fun e => if e.target == d.target then d else e
    else f.directives ++ [d]
  { f with directives }

/-! ## Reading -/

/-- A level by its name in any case; `off` is the level that shows nothing. -/
def level? (text : String) : Option (Option Level) :=
  let name := text.map Char.toLower
  if name == "off" then some none else (Level.ofName? name).map some

def trim (text : String) : String :=
  String.ofList ((text.toList.dropWhile Text.isBlank).reverse.dropWhile Text.isBlank).reverse

/-- What is wrong with a specification that is not understood. -/
def mistake (text : String) : String := s!"invalid logging spec '{text}'"

/-- The directive that an item writes. -/
def directive (item : String) : Except String Directive :=
  match item.splitOn "=" with
  | [only] => match level? only with
    | some most => .ok ⟨none, most⟩
    | none => .ok ⟨some only, some .trace⟩
  | [target, level] =>
    let level := trim level
    if level.isEmpty then .ok ⟨some target, some .trace⟩
    else match level? level with
      | some most => .ok ⟨some target, most⟩
      | none => .error (mistake level)
  | _ => .error (mistake item)

/-- Reads the items; those that are not understood are left out and complained of. -/
def addItems (f : Filter) (items : List String) : Filter × List String :=
  items.foldl
    (fun (f, mistakes) item =>
      if item.isEmpty then (f, mistakes)
      else match directive item with
        | .ok d => (f.insert d, mistakes)
        | .error m => (f, mistakes ++ [m]))
    (f, [])

/-- The filter that a text writes, and what is wrong with the text. -/
def ofString (text : String) : Filter × List String :=
  let items (part : String) := (part.splitOn ",").map trim
  match text.splitOn "/" with
  | [part] => addItems {} (items part)
  | [part, pattern] =>
    let (f, mistakes) := addItems {} (items part)
    match Text.Pattern.ofString pattern with
    | .ok p => ({ f with pattern := some p }, mistakes)
    | .error refusal => (f, mistakes ++ ["invalid regex filter - " ++ refusal.message pattern])
  | _ => ({}, [mistake text ++ " (too many '/'s)"])

end Filter
end PipeShell.Log
