import PipeShell.Host.Accounts
import PipeShell.Host.Script.Arithmetic
import PipeShell.Host.Script.Field
import PipeShell.Host.Script.Scope

/-! # Expansion

From words to texts: parameters, commands and arithmetic are substituted, the results are split
into fields, and fields that are patterns stand for the paths that they match. -/

namespace PipeShell.Host.Script

/-- What is done with a word. -/
structure Purpose where
  /-- It becomes any number of fields; otherwise it stays one text. -/
  splits : Bool := false
  /-- A tilde at the start stands for a home directory. -/
  tilde : Bool := false
  /-- So does one behind the equals sign and behind colons. -/
  assigns : Bool := false
  /-- It stands in the place of a parameter's value, so its text is split. -/
  replaces : Bool := false
  quoted : Bool := false

namespace Expansion

/-! ## Parameters -/

/-- The value of a parameter: the texts of its positional parameters, or one text. -/
inductive Value where
  | unset
  | text (text : String)
  | positional (texts : List String)

def valueOf (s : Scope) (name : String) : Value :=
  let some? (t : Option String) : Value := match t with
    | some t => .text t
    | none => .unset
  match name.toList with
  | ['$'] => .text (toString s.pid)
  | ['?'] => .text (toString s.status)
  | ['#'] => .text (toString s.positional.length)
  | ['!'] => some? (s.lastBackground.map toString)
  | ['-'] => .text s.optionLetters
  | ['@'] | ['*'] => .positional s.positional
  | c :: _ =>
    if c.isDigit then
      let n := name.toNat?.getD 0
      if n == 0 then .text s.name else some? s.positional[n - 1]?
    else some? (s.value? name)
  | [] => .unset

/-- What stands between positional parameters: a gap where fields are made, else the first
separator, if there is one. -/
def between (s : Scope) (name : String) (p : Purpose) : List Cell :=
  if p.splits && (!p.quoted || name == "@") then [.gap]
  else match s.lookup? "IFS" with
    | some { value := some separators, .. } => match separators.toList with
      | c :: _ => [.char c p.quoted]
      | [] => []
    | _ => [.char ' ' p.quoted]

def cellsOfText (text : String) (quoted : Bool) : List Cell := text.toList.map (.char · quoted)

/-- The cells of a parameter's value; nothing if it has none. -/
def cellsOf? (s : Scope) (name : String) (p : Purpose) : Option (List Cell) :=
  match valueOf s name with
  | .unset => none
  | .text text => some (cellsOfText text p.quoted)
  | .positional texts =>
    some ((between s name p).intercalate (texts.map (cellsOfText · p.quoted)))

/-- A parameter that has to have a value has none. -/
def failUnset (name : String) (tail : String) : Sh Building :=
  Sh.fail s!"{name}: {tail}"

/-- Where the home directory of a user is. -/
def home? (s : Scope) (user : String) : Option String :=
  if user.isEmpty then s.value? "HOME" else (Accounts.userNamed? user).map (·.home)

/-- The name behind a tilde and what follows it; nothing if something quoted comes before its
end. -/
def tildeName (assigns : Bool) (taken : List Char) : Word → Option (String × Word)
  | [] => some (String.ofList taken.reverse, [])
  | .char c false :: rest =>
    if c == '/' || (c == ':' && assigns) then some (String.ofList taken.reverse, .char c false :: rest)
    else tildeName assigns (c :: taken) rest
  | _ => none

section

-- How the words inside of a word are expanded, and what commands bring.
variable (inner : Purpose → Word → Building → Sh Building) (substitute : Option Command → Sh String)

/-- The text of a word that is not split. -/
def innerText (word : Word) (p : Purpose) : Sh (List Cell) := do
  return (← inner p word {}).cells.toList

/-- Replaces a tilde at the start of a word. -/
def tilde (p : Purpose) (word : Word) (b : Building) : Sh (Building × Word) := do
  match word with
  | .char '~' false :: rest => match tildeName p.assigns [] rest with
    | some (user, rest) => match home? (← get) user with
      | some home => return (b.addText home true, rest)
      | none => return (b, word)
    | none => return (b, word)
  | _ => return (b, word)

/-- Ends the text that has been taken over since `start`. -/
def closeRun (p : Purpose) (inQuotes : Bool) (start : Nat) (b : Building) : Building :=
  if p.replaces && !p.quoted && !inQuotes && start < b.cells.size then b.record start false else b

/-- The value of a parameter in the place of the parameter. -/
def putValue (name : String) (p : Purpose) (cells : List Cell) (b : Building) : Sh Building := do
  let start := b.cells.size
  let b := { b with cells := b.cells ++ cells.toArray }
  if !p.quoted then return b.record start false
  if name == "@" && !(← get).positional.isEmpty then return b.record start true
  return b

def parameter (name : String) (operation : Operation) (orEmpty : Bool) (word : Word) (p : Purpose)
    (b : Building) : Sh Building := do
  if operation = .bad then Sh.fail "Bad substitution"
  let s ← get
  let value := match cellsOf? s name p with
    | some cells => if orEmpty && cells.isEmpty then none else some cells
    | none => none
  let plain : Purpose := { p with tilde := true, replaces := true }
  let notSet : Sh Building := failUnset name "parameter not set"
  let needed (use : List Cell → Sh Building) : Sh Building := match value with
    | some cells => use cells
    | none => if s.option "nounset" then notSet else use []
  let cut (f : Pattern → List Char → List Char) : Sh Building := needed fun cells => do
    if value.isNone then return b
    let pattern := patternOf false (← innerText inner word { tilde := true })
    let chars := cells.map fun
      | .char c _ => c
      | _ => '\x00'
    let left := f pattern chars
    putValue name p (left.map fun c => if c == '\x00' then .gap else .char c p.quoted) b
  match operation with
  | .value => needed fun cells =>
      if value.isNone then return b else putValue name p cells b
  | .length => needed fun cells => do
      let length := toString cells.length
      putValue (if name == "@" then "" else name) p (cellsOfText length p.quoted) b
  | .instead => match value with
    | some cells => putValue name p cells b
    | none => inner plain word b
  | .other => match value with
    | some _ => inner plain word b
    | none => return b
  | .require => match value with
    | some cells => putValue name p cells b
    | none =>
      let message := textOf (← innerText inner word { quoted := p.quoted, tilde := true })
      failUnset name (if word.isEmpty then
          if orEmpty then "parameter not set or null" else "parameter not set"
        else message)
  | .assign => match value with
    | some cells => putValue name p cells b
    | none =>
      let text := textOf (← innerText inner word { quoted := p.quoted, tilde := true })
      if !isName name then Sh.fail s!"{name}: bad variable name"
      Sh.assign name text
      match cellsOf? (← get) name p with
      | some cells => putValue name p cells b
      | none => return b
  | .cutEnd longest => cut fun pattern text => pattern.cutEnd longest text
  | .cutStart longest => cut fun pattern text => pattern.cutStart longest text
  | .bad => return b

/-- The text without the newlines at its end. -/
def dropNewlines (text : String) : String :=
  String.ofList (text.toList.reverse.dropWhile (· == '\n')).reverse

def output (command : Option Command) (p : Purpose) (b : Building) : Sh Building := do
  let text := dropNewlines (← substitute command)
  let start := b.cells.size
  let b := b.addText (String.ofList (text.toList.filter (· != '\x00'))) p.quoted
  return if p.quoted then b else b.record start false

def arithmetic (expression : Word) (p : Purpose) (b : Building) : Sh Building := do
  let text := textOf (← innerText inner expression { quoted := true })
  let s ← get
  let (result, assigned) := Arithmetic.evaluate text s.value?
  for (name, n) in assigned.reverse do
    Sh.assign name (toString n.toInt)
  match result with
  | .error e => Sh.fail e
  | .ok n =>
    let start := b.cells.size
    let b := b.addText (toString n.toInt) p.quoted
    return if p.quoted then b else b.record start false

/-- Expands the parts of a word. `start` is where the text that has been taken over begins. -/
def parts (p : Purpose) (inQuotes assigned : Bool) (start : Nat) (b : Building) :
    List Part → Nat → Sh Building
  | [], _ | _, 0 => return closeRun p inQuotes start b
  | part :: rest, fuel + 1 => do
    let here : Purpose := { p with quoted := p.quoted || inQuotes, tilde := false }
    let go (f : Building → Sh Building) : Sh Building := do
      let b ← f (closeRun p inQuotes start b)
      parts p inQuotes assigned b.cells.size b rest fuel
    match part, rest with
    | .char c false, rest =>
      let b := b.add (.char c false)
      if p.assigns && !inQuotes && ((c == '=' && !assigned) || (c == ':' && assigned)) then
        let b := closeRun p inQuotes start b
        let size := b.cells.size
        let (b, rest) ← tilde p rest b
        parts p inQuotes true (if b.cells.size == size then size else b.cells.size) b rest fuel
      else parts p inQuotes assigned start b rest fuel
    | .char c true, rest =>
      let b := (closeRun p inQuotes start b).add (.char c true)
      parts p inQuotes assigned b.cells.size b rest fuel
    | .mark, .parameter "@" .value false [] :: .mark :: more =>
      if inQuotes then
        let b := (closeRun p inQuotes start b).add .mark
        parts p (!inQuotes) assigned b.cells.size b rest fuel
      else
        let b := closeRun p inQuotes start b
        let b ← parameter inner "@" .value false [] { here with quoted := true } b
        parts p inQuotes assigned b.cells.size b more fuel
    | .mark, rest =>
      let b := (closeRun p inQuotes start b).add .mark
      parts p (!inQuotes) assigned b.cells.size b rest fuel
    | .parameter name operation orEmpty word, _ =>
      go (parameter inner name operation orEmpty word here)
    | .output command, _ => go (output substitute command here)
    | .arithmetic expression, _ => go (arithmetic inner expression here)

/-- Expands a word behind what has been built. -/
def step (p : Purpose) (word : Word) (b : Building) : Sh Building := do
  let (b, word) ← if p.tilde then tilde p word b else pure (b, word)
  parts inner substitute { p with tilde := false } false false b.cells.size b word (word.length + 1)

end

/-- Expands a word. The number bounds how deep words are nested. -/
def expand (substitute : Option Command → Sh String) : Nat → Purpose → Word → Building → Sh Building
  | 0, _, _, b => return b
  | depth + 1, p, word, b => step (expand substitute depth) substitute p word b

/-- How deep words may be nested. -/
def maxDepth : Nat := 100

/-! ## Whole words -/

variable (substitute : Option Command → Sh String)

/-- The text of a word that is not split. -/
def text (p : Purpose) (word : Word) : Sh String := do
  return textOf (← expand substitute maxDepth p word {}).cells.toList

/-- A word as a pattern. -/
def pattern (word : Word) : Sh Pattern := do
  return patternOf false (← expand substitute maxDepth { tilde := true } word {}).cells.toList

/-- The paths that a pattern stands for, in order. -/
def matchingPaths (pattern : Pattern) : Sh (List String) := do
  let found ← Sh.act (Act.files fun fs cwd =>
    let namesIn (dir : String) : Option (List String) := match fs.resolveDirectory cwd dir with
      | .ok i => some ("." :: ".." :: (fs.entries i).map (·.1))
      | .error _ => none
    let isThere (path : String) : Bool := match fs.resolve cwd path false with
      | .ok _ => true
      | .error _ => false
    Pattern.paths namesIn isThere "" pattern.components)
  return found.mergeSort fun a b => a ≤ b

/-- The texts for which a field stands: the paths that it matches, or itself. -/
def fieldTexts (cells : List Cell) : Sh (List String) := do
  let pattern := patternOf false cells
  if (← get).option "noglob" || !Pattern.isSpecial pattern then return [textOf cells]
  match ← matchingPaths pattern with
  | [] => return [textOf cells]
  | paths => return paths

/-- The texts that a word stands for. -/
def fields (word : Word) : Sh (List String) := do
  let b ← expand substitute maxDepth { splits := true, tilde := true } word {}
  let separators := (← get).separators
  let mut texts : Array String := #[]
  for cells in b.fields separators none do
    texts := texts ++ (← fieldTexts cells).toArray
  return texts.toList

end Expansion
end PipeShell.Host.Script
