import PipeShell.Host.Script.Reader.Word

/-! # Reading commands

Tokens, and the commands that they make up. Reading a list of commands may lead to another list
inside of it; the readers here take that one as given, and `readList` at the end ties the knot. -/

namespace PipeShell.Host.Script

open Reading

/-- Where a list of commands ends. -/
inductive ListEnd where
  /-- At the end of its line. -/
  | line
  /-- Before a token that ends lists; it may not be empty. -/
  | filled
  /-- As `filled`, but it may be empty. -/
  | any
  deriving DecidableEq, Repr

/-- The names of functions that may not be defined, since the interpreter takes them itself. -/
def specialNames : List String := [
  ".", ":", "break", "continue", "eval", "exec", "exit", "export", "readonly", "return", "set",
  "shift", "times", "trap", "unset"]

/-- Makes a text complete and reads all of it. -/
def readWhole (read : Reading (Option Command)) (text : String) : Reading (Option Command) := do
  let outer ← get
  let inner : Source := { outer with
    rest := text.toList, complete := true, pushedBack := false, checks := {}, awaited := [] }
  match read.run inner with
  | .error stop => throw stop
  | .ok (command, inner) =>
    set { outer with documents := inner.documents }
    return command

section

-- How a list of commands is read.
variable (list : ListEnd → Reading (Option Command))

def expectToken (token : Reading Token) (expected : Token) (fits : Token → Bool) : Reading Unit := do
  if !fits (← token) then unexpected (some expected)

/-- How lists are read in substitutions. Documents that are still awaited at the end stay empty. -/
def nestedIn : Nested where
  parenthesized := do
    let before ← get
    set { before with awaited := [], pushedBack := false }
    let command ← list .any
    let s ← get
    let last := s.last
    match last with
    | .closeParen => set { s with pushedBack := false, awaited := before.awaited, checks := before.checks }
    | _ => unexpected (some .closeParen)
    return command
  whole := readWhole do
    let command ← list .any
    match (← get).last with
    | .endOfInput => return command
    | _ => unexpected none

/-! ## Tokens -/

def skipComment : Nat → Reading Unit
  | 0 => pure ()
  | fuel + 1 => do
    match ← next with
    | none => pure ()
    | some '\n' => unread (some '\n')
    | some _ => skipComment fuel

/-- The operator of a redirection waits for the word that follows it. -/
inductive RawToken where
  | token (token : Token)
  | redirecting (r : Redirecting)

/-- The next token from the text. -/
def readRawToken : Nat → Reading RawToken
  | 0 => return .token .endOfInput
  | fuel + 1 => do
    let two (c : Char) (double single : Token) : Reading RawToken := do
      return .token (if ← accept c then double else single)
    match ← nextJoined with
    | none => return .token .endOfInput
    | some ' ' | some '\t' => readRawToken fuel
    | some '#' => do
      skipComment (← get).rest.length
      readRawToken fuel
    | some '\n' => do
      countLine
      return .token .newline
    | some '&' => two '&' .both .background
    | some '|' => two '|' .either .bar
    | some ';' => two ';' .endClause .semicolon
    | some '(' => return .token .openParen
    | some ')' => return .token .closeParen
    | some c => match ← readWord (nestedIn list) c with
      | .inl (word, quoted) => return .token (.word word quoted)
      | .inr r => return .redirecting r

/-- Puts the value of an alias in the place of its name. -/
def replaceAlias (name value : String) : Reading Unit :=
  modify fun s => { s with
    rest := value.toList ++ s.rest
    inUse := (name, s.rest.length) :: s.inUse }

/-- The value of an alias that is not being replaced. -/
def alias? (word : String) : Reading (Option String) := do
  let s ← get
  match s.aliases.lookup word with
  | none => return none
  | some value =>
    let inUse := s.inUse.filter fun (_, behind) => behind < s.rest.length
    set { s with inUse }
    return if inUse.any (·.1 == word) then none else some value

/-- Whether the end of an alias that ends with a blank lies within what has been read since so many
characters were left. The word behind such an alias is looked up as well. -/
def passedBlankEnd (before : Nat) : Reading Bool := do
  let s ← get
  let endsBlank (name : String) : Bool :=
    match ((s.aliases.lookup name).getD "").toList.getLast? with
    | some c => c == ' ' || c == '\t'
    | none => false
  return s.inUse.any fun (name, behind) =>
    behind ≤ before && s.rest.length < behind && endsBlank name

/-- Newlines before a token are skipped if they mean nothing there. -/
def skipNewlines (raw : Reading RawToken) : Nat → RawToken → Reading RawToken
  | 0, t => return t
  | fuel + 1, .token .newline => do
    readDocuments (nestedIn list)
    setChecks {}
    skipNewlines raw fuel (← raw)
  | _, t => return t

/-- The next token, with words looked up as the checks say. -/
def readCheckedToken (checks : Checks) : Nat → Reading RawToken
  | 0 => return .token .endOfInput
  | fuel + 1 => do
    let raw : Reading RawToken := do
      let s ← get
      if s.pushedBack then
        set { s with pushedBack := false }
        return .token s.last
      let t ← readRawToken list (s.rest.length + 1)
      if ← passedBlankEnd s.rest.length then
        modify fun s => { s with checks := { s.checks with aliases := true } }
      return t
    let t ← raw
    let t ← if checks.newlines then skipNewlines list raw (← get).rest.length t else pure t
    let aliases := checks.aliases || (← get).checks.aliases
    setChecks {}
    match t with
    | .token (.word word false) =>
      let text := Word.plain word
      if text.length != word.length then return t
      if checks.keywords && Token.keywords.contains text then return .token (.keyword text)
      if !aliases then return t
      match ← alias? text with
      | none => return t
      | some value =>
        replaceAlias text value
        readCheckedToken { checks with aliases } fuel
    | t => return t

/-- The most aliases that are replaced for one token. -/
def maxAliases : Nat := 1000

/-- A word that must come next. -/
def readFileName (isDocument : Bool) : Reading (Word × Bool) := do
  let checks : Checks := { documentEnd := isDocument }
  setChecks checks
  let t ← readCheckedToken list checks maxAliases
  setChecks {}
  match t with
  | .token (.word word quoted) =>
    return (word, quoted)
  | .token t =>
    modify fun s => { s with last := t }
    unexpected none
  | .redirecting _ => do
    modify fun s => { s with last := .redirection (.duplicate 0 none) }
    unexpected none

/-- A redirection after its operator. -/
def readRedirection : Redirecting → Reading Redirection
  | .file mode fd => do return .file mode fd (← readFileName list false).1
  | .duplicate fd => do
    let (word, _) ← readFileName list false
    match word with
    | [.char '-' false] => return .duplicate fd none
    | [.char d false] =>
      if d.isDigit then return .duplicate fd (some (d.toNat - '0'.toNat))
      else return .duplicateWord fd word
    | _ => return .duplicateWord fd word
  | .document fd stripsTabs => do
    let (word, quoted) ← readFileName list true
    let s ← get
    let number := s.documents.size
    set { s with
      documents := s.documents.push default
      awaited := s.awaited ++ [(⟨number, Word.literal word, stripsTabs, !quoted⟩ : Awaited)] }
    return .document fd number

/-- The next token. -/
def token : Reading Token := do
  match ← readCheckedToken list (← get).checks maxAliases with
  | .token t =>
    modify fun s => { s with last := t }
    return t
  | .redirecting r =>
    let t := Token.redirection (← readRedirection list r)
    modify fun s => { s with last := t }
    return t

def isKeyword (text : String) : Token → Bool
  | .keyword t => t == text
  | _ => false

/-- A keyword that must come next. -/
def expectKeyword (text : String) : Reading Unit :=
  expectToken (token list) (.keyword text) (isKeyword text)

def commandStart : Checks := { aliases := true, keywords := true, newlines := true }

/-! ## Simple commands -/

/-- A simple command as far as it has been read, everything backwards. -/
structure Simple where
  assignments : List Word := []
  words : List Word := []
  redirections : List Redirection := []

/-- The body of a function, after its name and the opening parenthesis. -/
def readFunction (command : Reading Command) (name : Word) : Reading Command := do
  expectToken (token list) .closeParen fun
    | .closeParen => true
    | _ => false
  let text := Word.plain name
  if text.length != name.length || !isName text || specialNames.contains text then
    mistake "Bad function name"
  setChecks commandStart
  let line := (← get).line
  return .function line text (← command)

def readSimpleFrom (command : Reading Command) (line : Nat) (s : Simple) : Nat → Reading Command
  | 0 => mistake "too long"
  | fuel + 1 => do
    setChecks { aliases := s.words.isEmpty }
    let stop : Reading Command := do
      pushBack
      return .simple line s.assignments.reverse s.words.reverse s.redirections.reverse
    match ← token list with
    | .word word _ =>
      let s := if s.words.isEmpty && Word.isAssignment word then
          { s with assignments := word :: s.assignments }
        else { s with words := word :: s.words }
      readSimpleFrom command line s fuel
    | .redirection r =>
      readSimpleFrom command line { s with redirections := r :: s.redirections } fuel
    | .openParen => match s with
      | ⟨[], [name], []⟩ => readFunction list command name
      | _ => stop
    | _ => stop

/-! ## Compound commands -/

/-- The alternatives of a conditional and its end. -/
def readAlternatives (condition consequent : Option Command) : Nat → Reading Command
  | 0 => mistake "too long"
  | fuel + 1 => do
    match ← token list with
    | .keyword "elif" =>
      let c ← list .filled
      expectKeyword list "then"
      let b ← list .filled
      let rest ← readAlternatives c b fuel
      return .conditional condition consequent (some rest)
    | .keyword "else" => return .conditional condition consequent (← list .filled)
    | _ =>
      pushBack
      return .conditional condition consequent none

def readConditional : Reading Command := do
  let condition ← list .filled
  expectKeyword list "then"
  let consequent ← list .filled
  let command ← readAlternatives list condition consequent ((← get).rest.length + 1)
  expectKeyword list "fi"
  return command

def readLoop (untilHolds : Bool) : Reading Command := do
  let condition ← list .filled
  expectKeyword list "do"
  let body ← list .filled
  expectKeyword list "done"
  return .loop untilHolds condition body

/-- Words up to the first token that is none. -/
def readWords (words : List Word) : Nat → Reading (List Word)
  | 0 => return words.reverse
  | fuel + 1 => do
    match ← token list with
    | .word word _ => readWords (word :: words) fuel
    | _ => return words.reverse

/-- All positional parameters, each a word of its own. -/
def allParameters : Word := [.mark, .parameter "@" .value false [], .mark]

def readForEach (line : Nat) : Reading Command := do
  let name ← do
    match ← token list with
    | .word word false =>
      let text := Word.plain word
      if text.length == word.length && isName text then pure text
      else mistake "Bad for loop variable"
    | _ => mistake "Bad for loop variable"
  setChecks commandStart
  let words ← do
    match ← token list with
    | .keyword "in" =>
      let words ← readWords list [] ((← get).rest.length + 1)
      match (← get).last with
      | .newline | .semicolon => pure ()
      | _ => unexpected none
      pure words
    | .semicolon => pure [allParameters]
    | _ =>
      pushBack
      pure [allParameters]
  setChecks commandStart
  expectKeyword list "do"
  let body ← list .filled
  expectKeyword list "done"
  return .forEach line name words body

/-- The patterns of a clause after the first, up to the closing parenthesis. -/
def readPatterns (patterns : List Word) : Nat → Reading (List Word)
  | 0 => return patterns.reverse
  | fuel + 1 => do
    let pattern := match (← get).last with
      | .word word _ => word
      | .keyword text => text.toList.map (.char · false)
      | _ => []
    match ← token list with
    | .bar =>
      let _ ← token list
      readPatterns (pattern :: patterns) fuel
    | _ => return (pattern :: patterns).reverse

def readClauses (clauses : List (List Word × Option Command)) :
    Nat → Reading (List (List Word × Option Command))
  | 0 => return clauses.reverse
  | fuel + 1 => do
    setChecks { keywords := true, newlines := true }
    match ← token list with
    | .keyword "esac" => return clauses.reverse
    | t =>
      match t with
      | .openParen => let _ ← token list
      | _ => pure ()
      let patterns ← readPatterns list [] ((← get).rest.length + 1)
      match (← get).last with
      | .closeParen => pure ()
      | _ => unexpected (some .closeParen)
      let body ← list .any
      let clauses := (patterns, body) :: clauses
      setChecks { keywords := true, newlines := true }
      match ← token list with
      | .keyword "esac" => return clauses.reverse
      | .endClause => readClauses clauses fuel
      | _ => unexpected (some .endClause)

def readSelect (line : Nat) : Reading Command := do
  let word ← do
    match ← token list with
    | .word word _ => pure word
    | _ => unexpected (some (.word [] false))
  setChecks commandStart
  expectKeyword list "in"
  return .select line word (← readClauses list [] ((← get).rest.length + 1))

/-- The redirections behind a compound command. -/
def readRedirections (found : List Redirection) : Nat → Reading (List Redirection)
  | 0 => return found.reverse
  | fuel + 1 => do
    match ← token list with
    | .redirection r => readRedirections (r :: found) fuel
    | _ =>
      pushBack
      return found.reverse

def addRedirections (line : Nat) (command : Command) (redirections : List Redirection) : Command :=
  if redirections.isEmpty then command
  else match command with
    | .subshell line body _ => .subshell line body redirections
    | command => .redirected line command redirections

/-- A command that may stand between bars. The number bounds how deep functions are nested. -/
def readCommand : Nat → Reading Command
  | 0 => mistake "too deep"
  | depth + 1 => do
    let line := (← get).line
    let compound (body : Reading Command) : Reading Command := do
      let command ← body
      setChecks { aliases := true, keywords := true }
      return addRedirections line command (← readRedirections list [] ((← get).rest.length + 1))
    match ← token list with
    | .keyword "if" => compound (readConditional list)
    | .keyword "while" => compound (readLoop list false)
    | .keyword "until" => compound (readLoop list true)
    | .keyword "for" => compound (readForEach list line)
    | .keyword "case" => compound (readSelect list line)
    | .openParen => compound do
      let body ← list .filled
      expectToken (token list) .closeParen fun
        | .closeParen => true
        | _ => false
      return .subshell line body []
    | .keyword "\x7b" => compound do
      let body ← list .filled
      expectKeyword list "\x7d"
      return body.getD default
    | .word .. | .redirection _ =>
      pushBack
      readSimpleFrom list (readCommand depth) line {} ((← get).rest.length + 2)
    | _ => unexpected none

/-! ## Lists -/

/-- How deep functions that consist of functions may be nested. -/
def maxFunctions : Nat := 100

/-- The commands behind the first bar, backwards. -/
def readPiped (commands : List Command) : Nat → Reading (List Command)
  | 0 => return commands
  | fuel + 1 => do
    match ← token list with
    | .bar =>
      setChecks commandStart
      readPiped ((← readCommand list maxFunctions) :: commands) fuel
    | _ => return commands

def readPipeline : Reading Command := do
  let negates ← do
    match ← token list with
    | .keyword "!" =>
      setChecks { aliases := true, keywords := true }
      pure true
    | _ =>
      pushBack
      pure false
  let first ← readCommand list maxFunctions
  let commands ← readPiped list [first] ((← get).rest.length + 2)
  pushBack
  let command := match commands with
    | [only] => only
    | commands => .pipe false commands.reverse
  return if negates then .negated command else command

def readAndOr (done : Command) : Nat → Reading Command
  | 0 => return done
  | fuel + 1 => do
    match ← token list with
    | .both =>
      setChecks commandStart
      readAndOr (.both done (← readPipeline list)) fuel
    | .either =>
      setChecks commandStart
      readAndOr (.either done (← readPipeline list)) fuel
    | _ =>
      pushBack
      return done

/-- A command that is not waited for. -/
def inBackground : Command → Command
  | .pipe _ commands => .pipe true commands
  | .redirected line body redirections => .background line body redirections
  | command => .background 0 command []

def readListFrom (stop : ListEnd) (done : Option Command) (isFirst : Bool) :
    Nat → Reading (Option Command)
  | 0 => return done
  | fuel + 1 => do
    setChecks { commandStart with newlines := stop ≠ .line }
    let atEnd : Reading (Option Command) := do
      readDocuments (nestedIn list)
      modify fun s => { s with pushedBack := true, last := .endOfInput }
      return done
    let t ← token list
    match t with
    | .newline =>
      readDocuments (nestedIn list)
      return done
    | .endOfInput => atEnd
    | _ =>
      pushBack
      let mayEnd := match stop with
        | .line => false
        | .filled => !isFirst
        | .any => true
      if mayEnd && t.endsList then return done
      let command ← readAndOr list (← readPipeline list) ((← get).rest.length + 2)
      let t ← token list
      let command := match t with
        | .background => inBackground command
        | _ => command
      let done := match done with
        | none => command
        | some first => .sequence first command
      match t with
      | .endOfInput =>
        readDocuments (nestedIn list)
        modify fun s => { s with pushedBack := true, last := .endOfInput }
        return some done
      | .newline =>
        pushBack
        readListFrom stop (some done) false fuel
      | .background | .semicolon => readListFrom stop (some done) false fuel
      | _ =>
        if stop = .line then unexpected none
        pushBack
        return some done

end

/-- Reads a list of commands. The number bounds how deep lists are nested. -/
def readList : Nat → ListEnd → Reading (Option Command)
  | 0, _ => mistake "too deep"
  | depth + 1, stop => do
    readListFrom (readList depth) stop none true ((← get).rest.length + 2)

/-- How deep the commands of a script may be nested. -/
def maxNesting : Nat := 500

/-- What reading a line of commands brings. -/
inductive Line where
  | command (command : Option Command)
  /-- There are no more commands. -/
  | nothing

/-- Reads the commands of the next line, which may go on over several. -/
def readLine : Reading Line := do
  modify fun s => { s with pushedBack := false, checks := {}, awaited := [] }
  let command ← readList maxNesting .line
  let s ← get
  let ended := match s.last with
    | .endOfInput => s.pushedBack
    | _ => false
  return if command.isNone && ended then .nothing else .command command

end PipeShell.Host.Script
