import PipeShell.Host.Tool.Basic

/-! # Options of tools

An option is a letter behind a dash or a word behind two. Letters may be joined, words may be
shortened, and an argument may be joined or come next. Options may stand behind operands, unless a
tool takes only those in front. -/

namespace PipeShell.Host.Tool

inductive Arity where
  | none | required | optional
  deriving DecidableEq, Repr

/-- An option. Its key is what the tool knows it by: the letter, or the word if it has none. -/
structure Switch where
  key : String
  word : String := ""
  arity : Arity := .none

namespace Switch

/-- An option that has a letter, and perhaps a word. -/
def letter (c : Char) (word : String) (arity : Arity) : Switch := ⟨String.ofList [c], word, arity⟩

def isLetter (s : Switch) (c : Char) : Bool := s.key == String.ofList [c]

/-- With this switch operands are given like options, each in its turn, under an empty key. -/
def operand : Switch := ⟨"", "", .required⟩

/-- Options with these letters, a colon behind those that take an argument. -/
def ofLetters (letters : String) : List Switch := go letters.toList
where
  go : List Char → List Switch
    | [] => []
    | c :: ':' :: rest => letter c "" .required :: go rest
    | c :: rest => letter c "" .none :: go rest

end Switch

/-- An option that was given, by its key, and its argument. -/
abbrev Given := String × Option String

/-- Options and operands as they were told apart. -/
structure Parsed where
  given : List Given := []
  operands : List String := []
  /-- What is wrong with the first word that could not be read. -/
  mistake : Option String := none

namespace Parsed

def has (p : Parsed) (key : String) : Bool := p.given.any (·.1 == key)

def hasAny (p : Parsed) (keys : List String) : Bool := p.given.any fun g => keys.contains g.1

/-- The argument of the last option with this key. -/
def last? (p : Parsed) (key : String) : Option String :=
  (p.given.reverse.find? (·.1 == key)).bind (·.2)

/-- The key of the last option that is one of these. -/
def lastOf? (p : Parsed) (keys : List String) : Option String :=
  (p.given.reverse.find? fun g => keys.contains g.1).map (·.1)

end Parsed

/-- The option that a word stands for, perhaps shortened; or what is wrong with it, which is said of
the whole text. -/
def switchFor (switches : List Switch) (word text : String) : Except String Switch :=
  let named := switches.filter (!·.word.isEmpty)
  match named.find? (·.word == word) with
  | some s => .ok s
  | none => match named.filter (·.word.startsWith word) with
    | [] => .error ("unrecognized option '--" ++ text ++ "'")
    | s :: others =>
      if others.all fun o => o.key == s.key && o.arity == s.arity then .ok s
      else
        let all := (s :: others).map fun o => " '--" ++ o.word ++ "'"
        .error ("option '--" ++ text ++ "' is ambiguous; possibilities:" ++ String.join all)

/-- Reads the letters of one word; the argument of the last one may come next. -/
def parseLetters (switches : List Switch) (given : List Given) (rest : List String) :
    List Char → List Given × Except String (List String)
  | [] => (given, .ok rest)
  | c :: cs => match switches.find? (·.isLetter c) with
    | none => (given, .error ("invalid option -- '" ++ String.ofList [c] ++ "'"))
    | some s => match s.arity with
      | .none => parseLetters switches ((s.key, none) :: given) rest cs
      | .optional =>
        ((s.key, if cs.isEmpty then none else some (String.ofList cs)) :: given, .ok rest)
      | .required =>
        if !cs.isEmpty then ((s.key, some (String.ofList cs)) :: given, .ok rest)
        else match rest with
          | argument :: rest => ((s.key, some argument) :: given, .ok rest)
          | [] => (given, .error ("option requires an argument -- '" ++ String.ofList [c] ++ "'"))

/-- Reads one word that is an option and perhaps the next one, its argument. -/
def parseWord (switches : List Switch) (rest : List String) (text : String) :
    Except String (Given × List String) := do
  let (name, value) : String × Option String := match text.splitOn "=" with
    | name :: v :: more => (name, some ("=".intercalate (v :: more)))
    | _ => (text, none)
  let s ← switchFor switches name text
  match s.arity, value, rest with
  | .none, some _, _ => .error ("option '--" ++ s.word ++ "' doesn't allow an argument")
  | .none, none, _ | .optional, _, _ => return ((s.key, value), rest)
  | .required, some v, _ => return ((s.key, some v), rest)
  | .required, none, argument :: rest => return ((s.key, some argument), rest)
  | .required, none, [] => .error ("option '--" ++ s.word ++ "' requires an argument")

/-- Whether the letters of a word end with one that takes the next word. -/
def lettersTakeNext (switches : List Switch) : List Char → Bool
  | [] => false
  | c :: cs => match switches.find? (·.isLetter c) with
    | some { arity := .none, .. } => lettersTakeNext switches cs
    | some { arity := .required, .. } => cs.isEmpty
    | _ => false

/-- Whether a word is an option that takes the next word as its argument. -/
def takesNext (switches : List Switch) (word : String) : Bool :=
  match word.toList with
  | '-' :: '-' :: cs => match switchFor switches (String.ofList cs) "" with
    | .ok s => s.arity == .required
    | .error _ => false
  | '-' :: cs => lettersTakeNext switches cs
  | _ => false

/-- Reads options and operands, both of which are collected in reverse, up to a mistake. With
`inOrder` the first operand ends the options. -/
def parseFrom (switches : List Switch) (inOrder : Bool) (p : Parsed) (words : List String) : Nat → Parsed
  | 0 => { given := p.given.reverse, operands := p.operands.reverse ++ words }
  | fuel + 1 =>
    let done (rest : List String) : Parsed :=
      { given := p.given.reverse, operands := p.operands.reverse ++ rest }
    let onward (given : List Given) : Except String (List String) → Parsed
      | .ok rest => parseFrom switches inOrder { p with given } rest fuel
      | .error text => { given := given.reverse, operands := p.operands.reverse, mistake := some text }
    match words with
    | [] => done []
    | word :: rest => match word.toList with
      | ['-', '-'] => done rest
      | '-' :: '-' :: cs => match parseWord switches rest (String.ofList cs) with
        | .ok (given, rest) => onward (given :: p.given) (.ok rest)
        | .error text => onward p.given (.error text)
      | '-' :: c :: cs =>
        let (given, rest) := parseLetters switches p.given rest (c :: cs)
        onward given rest
      | _ =>
        if switches.any (·.key.isEmpty) then onward (("", some word) :: p.given) (.ok rest)
        else if inOrder then done words
        else parseFrom switches inOrder { p with operands := word :: p.operands } rest fuel

/-- Says in short how a tool is used, or what it is, and ends it. -/
def showAbout (key : String) : Tool Unit := do
  let name := (← get).name
  print (if key == "help" then "Usage: " ++ name ++ " [OPTION]...\n" else name ++ "\n")
  throw 0

/-- Reads the words of a call, and adds each option in its turn to what is wanted, so that a mistake
in one is told before what is wrong with the words behind it. A mistake in a word ends the tool with
this code. Help is given to whoever asks for it. -/
def parseInto {σ : Type} (switches : List Switch) (inOrder : Bool) (code : Nat) (words : List String)
    (wanted : σ) (add : σ → Given → Tool σ) : Tool (Parsed × σ) := do
  let switches := switches ++ [⟨"help", "help", .none⟩, ⟨"version", "version", .none⟩]
  let inOrder := inOrder || (← get).isStrict
  let p := parseFrom switches inOrder {} words (words.length + 1)
  let step (wanted : σ) (given : Given) : Tool σ := do
    if given.1 == "help" || given.1 == "version" then showAbout given.1
    add wanted given
  let wanted ← p.given.foldlM step wanted
  if let some text := p.mistake then
    note ((← get).name ++ ": " ++ text ++ "\n")
    tryHelp code
  return (p, wanted)

/-- Reads the words of a call, and looks at each option in its turn. -/
def parseWith (switches : List Switch) (inOrder : Bool) (code : Nat) (words : List String)
    (check : Given → Tool Unit) : Tool Parsed := do
  return (← parseInto switches inOrder code words () fun _ given => check given).1

/-- Reads the words of a call where options have no mistakes of their own. -/
def parse (switches : List Switch) (inOrder : Bool) (code : Nat) (words : List String) : Tool Parsed :=
  parseWith switches inOrder code words fun _ => return ()

/-- The words of a choice, those of one meaning in one row. -/
def choiceRows {α : Type} [BEq α] : List (String × α) → List (List String)
  | [] => []
  | (word, meaning) :: rest => match rest, choiceRows rest with
    | (_, next) :: _, row :: rows => if meaning == next then (word :: row) :: rows else [word] :: row :: rows
    | _, rows => [word] :: rows

/-- Ends the tool because of an option's argument that is none of the choices. -/
def refuseChoice {α β : Type} [BEq α] (kind option : String) (choices : List (String × α)) (word : String) :
    Tool β := do
  let row (words : List String) : Message := "  - " ++ .intercalate ", " (words.map quote) ++ "\n"
  warn (kind ++ " argument " ++ quote word ++ " for " ++ quote option)
  note ("Valid arguments are:\n" ++ .concat ((choiceRows choices).map row))
  tryHelp 1

/-- What a word means that is an option's argument. -/
def chooseWhole {α : Type} [BEq α] (option : String) (choices : List (String × α)) (word : String) :
    Tool α :=
  match choices.lookup word with
  | some meaning => return meaning
  | none => refuseChoice "invalid" option choices word

/-- What a word means that is an option's argument and may be shortened. -/
def choose {α : Type} [BEq α] (option : String) (choices : List (String × α)) (word : String) : Tool α :=
  match choices.lookup word with
  | some meaning => return meaning
  | none => match choices.filter (·.1.startsWith word) with
    | [] => refuseChoice "invalid" option choices word
    | (_, meaning) :: others =>
      if others.all (·.2 == meaning) then return meaning
      else refuseChoice "ambiguous" option choices word

end PipeShell.Host.Tool
