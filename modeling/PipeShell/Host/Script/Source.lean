import PipeShell.Host.Script.Syntax

/-! # The text of a script

A script is read character by character. Where the text that is there ends but more may come,
reading stops and starts anew once there is more; where all is there, its end is a fact to be
read. -/

namespace PipeShell.Host.Script

/-- Why reading stops. -/
inductive Stop where
  | mistake (line : Nat) (text : String)
  /-- What comes next is not there yet. -/
  | wantsMore
  deriving Repr

inductive Token where
  | endOfInput | newline
  | redirection (redirection : Redirection)
  | word (word : Word) (quoted : Bool)
  | semicolon | background | both | either | bar | openParen | closeParen | endClause
  | keyword (text : String)
  deriving Inhabited

namespace Token

/-- How a mistake speaks of a token. -/
def shown : Token → String
  | endOfInput => "end of file"
  | newline => "newline"
  | redirection _ => "redirection"
  | word .. => "word"
  | semicolon => "\";\""
  | background => "\"&\""
  | both => "\"&&\""
  | either => "\"||\""
  | bar => "\"|\""
  | openParen => "\"(\""
  | closeParen => "\")\""
  | endClause => "\";;\""
  | keyword text => "\"" ++ text ++ "\""

def keywords : List String := [
  "!", "case", "do", "done", "elif", "else", "esac", "fi", "for", "if", "in", "then", "until",
  "while", "\x7b", "\x7d"]

/-- Whether a list of commands ends before this token. -/
def endsList : Token → Bool
  | endOfInput | closeParen | endClause => true
  | keyword text => ["do", "done", "elif", "else", "esac", "fi", "then", "\x7d"].contains text
  | _ => false

def isWord : Token → Bool
  | word .. => true
  | _ => false

end Token

/-- What a word is looked up as before it counts as a word. -/
structure Checks where
  aliases : Bool := false
  keywords : Bool := false
  /-- Newlines before the token are skipped. -/
  newlines : Bool := false
  /-- The word is where a document ends. -/
  documentEnd : Bool := false

/-- A document whose text comes after the line. -/
structure Awaited where
  number : Nat
  stop : String
  stripsTabs : Bool
  expands : Bool

structure Source where
  rest : List Char
  line : Nat := 1
  /-- Whether nothing comes after `rest`. -/
  complete : Bool := true
  aliases : List (String × String) := []
  /-- Aliases that are being replaced, with the length of the text behind each. -/
  inUse : List (String × Nat) := []
  pushedBack : Bool := false
  last : Token := .endOfInput
  checks : Checks := {}
  awaited : List Awaited := []
  documents : Array Document := #[]

abbrev Reading := StateT Source (Except Stop)

namespace Reading

def mistake {α : Type} (text : String) : Reading α := do
  throw (.mistake (← get).line ("Syntax error: " ++ text))

/-- A token that may not stand here, and the one that has to, if only one can. -/
def unexpected {α : Type} (expected : Option Token) : Reading α := do
  let found := (← get).last.shown
  mistake (match expected with
    | some t => s!"{found} unexpected (expecting {t.shown})"
    | none => s!"{found} unexpected")

/-- The next character; nothing at the end. -/
def next : Reading (Option Char) := do
  let s ← get
  match s.rest with
  | c :: rest =>
    set { s with rest }
    return some c
  | [] => if s.complete then return none else throw .wantsMore

def unread (c : Option Char) : Reading Unit :=
  modify fun s => { s with rest := c.toList ++ s.rest }

def countLine : Reading Unit := modify fun s => { s with line := s.line + 1 }

/-- As `next`, without newlines that a backslash takes away. -/
def joinedFrom : Nat → Reading (Option Char)
  | 0 => next
  | fuel + 1 => do
    match ← next with
    | some '\\' => do
      match ← next with
      | some '\n' =>
        countLine
        joinedFrom fuel
      | c =>
        unread c
        return some '\\'
    | c => return c

def nextJoined : Reading (Option Char) := do joinedFrom (← get).rest.length

/-- Takes a character if it comes next. -/
def accept (c : Char) : Reading Bool := do
  let d ← nextJoined
  if d == some c then return true
  unread d
  return false

/-- The characters that come next as long as they satisfy `p`. -/
def takeJoined (p : Char → Bool) (taken : List Char) : Nat → Reading String
  | 0 => return String.ofList taken.reverse
  | fuel + 1 => do
    match ← nextJoined with
    | some c =>
      if p c then takeJoined p (c :: taken) fuel
      else
        unread (some c)
        return String.ofList taken.reverse
    | none => return String.ofList taken.reverse

def pushBack : Reading Unit := modify fun s => { s with pushedBack := true }

def setChecks (checks : Checks) : Reading Unit := modify fun s => { s with checks }

end Reading
end PipeShell.Host.Script
