/-! # Scripts

The commands of the host's command interpreter as they are read: words with the substitutions in
them, redirections, and simple, compound and combined commands. -/

namespace PipeShell.Host.Script

/-- What is done with the value of a parameter. -/
inductive Operation where
  | value
  /-- `-`, `+`, `?` and `=`. -/
  | instead | other | require | assign
  /-- `%`, `%%`, `#` and `##`: the shortest or longest match is cut off at the end or the start. -/
  | cutEnd (longest : Bool)
  | cutStart (longest : Bool)
  | length
  /-- What stands between the braces is no substitution. -/
  | bad
  deriving DecidableEq, Repr

/-- How a file is redirected to. -/
inductive FileMode where
  | read | write | clobber | append | readWrite
  deriving DecidableEq, Repr

mutual

/-- A piece of a word. -/
inductive Part where
  /-- A character; an escaped one stands for itself wherever it is. -/
  | char (c : Char) (escaped : Bool)
  /-- Quoting begins or ends. -/
  | mark
  /-- A parameter. `orEmpty` treats an empty value as none. -/
  | parameter (name : String) (operation : Operation) (orEmpty : Bool) (word : List Part)
  /-- What a command writes. -/
  | output (command : Option Command)
  | arithmetic (expression : List Part)

inductive Redirection where
  | file (mode : FileMode) (fd : Nat) (path : List Part)
  /-- The descriptor becomes what another one is, or is closed. -/
  | duplicate (fd : Nat) (source : Option Nat)
  /-- As `duplicate`, with a source that has to be expanded first. -/
  | duplicateWord (fd : Nat) (source : List Part)
  /-- What stands in the script as a document of this number. -/
  | document (fd : Nat) (number : Nat)

inductive Command where
  | simple (line : Nat) (assignments words : List (List Part)) (redirections : List Redirection)
  | pipe (background : Bool) (commands : List Command)
  | redirected (line : Nat) (body : Command) (redirections : List Redirection)
  | background (line : Nat) (body : Command) (redirections : List Redirection)
  | subshell (line : Nat) (body : Option Command) (redirections : List Redirection)
  | both (first second : Command)
  | either (first second : Command)
  | sequence (first second : Command)
  | negated (command : Command)
  | conditional (condition consequent : Option Command) (alternative : Option Command)
  /-- Goes on as long as the condition holds, or `untilHolds` until it does. -/
  | loop (untilHolds : Bool) (condition body : Option Command)
  | forEach (line : Nat) (name : String) (words : List (List Part)) (body : Option Command)
  | select (line : Nat) (word : List Part) (clauses : List (List (List Part) × Option Command))
  | function (line : Nat) (name : String) (body : Command)

end

abbrev Word := List Part

instance : Inhabited Command := ⟨.simple 0 [] [] []⟩

/-- A document that stands in a script. -/
structure Document where
  /-- Whether substitutions are made in it. -/
  expands : Bool
  text : Word
  deriving Inhabited

/-! ## Names -/

def isNameStart (c : Char) : Bool := c.isAlpha || c == '_'

def isNameChar (c : Char) : Bool := c.isAlphanum || c == '_'

def isName (text : String) : Bool :=
  match text.toList with
  | c :: cs => isNameStart c && cs.all isNameChar
  | [] => false

/-- The parameters that are set by the interpreter, by the character that names each. -/
def isSpecial (c : Char) : Bool :=
  ['!', '#', '$', '*', '-', '?', '@'].contains c || c.isDigit

/-- The plain characters at the start of a word. -/
def Word.plain : Word → String
  | .char c false :: rest => String.ofList [c] ++ Word.plain rest
  | _ => ""

/-- Whether a word begins with a name and an equals sign. -/
def Word.isAssignment (word : Word) : Bool :=
  let text := Word.plain word
  match text.splitOn "=" with
  | name :: _ :: _ => isName name
  | _ => false

/-- All plain and escaped characters of a word without substitutions. -/
def Word.literal (word : Word) : String :=
  String.ofList (word.filterMap fun
    | .char c _ => some c
    | _ => none)

end PipeShell.Host.Script
