import PipeShell.Host.Script.Source

/-! # Reading words

A word is read up to the first character that cannot belong to it. What a character means depends
on the quotes and braces that are open, and a substitution may open a list of commands, which the
caller reads. -/

namespace PipeShell.Host.Script

/-- What characters mean. -/
inductive Quoting where
  | none | double | single | arithmetic
  deriving DecidableEq, Repr

/-- What is open: quotes, and braces of parameters in them. -/
structure Frame where
  quoting : Quoting := .none
  isDouble : Bool := false
  /-- Double quotes have been opened between braces. -/
  innerDouble : Bool := false
  /-- The frame ends with the brace that it was opened for. -/
  endsWithBrace : Bool := false
  braces : Nat := 0
  doubleBraces : Nat := 0
  parens : Nat := 0

/-- A piece that is being read, its parts backwards. -/
inductive Open where
  | word (parts : List Part)
  | parameter (name : String) (operation : Operation) (orEmpty : Bool) (parts : List Part)
  | arithmetic (parts : List Part)

def Open.add (part : Part) : Open → Open
  | word parts => word (part :: parts)
  | parameter name operation orEmpty parts => parameter name operation orEmpty (part :: parts)
  | arithmetic parts => arithmetic (part :: parts)

/-- The part that a piece has become. -/
def Open.close : Open → List Part
  | word parts => parts.reverse
  | parameter name operation orEmpty parts => [.parameter name operation orEmpty parts.reverse]
  | arithmetic parts => [.arithmetic parts.reverse]

/-- A word as far as it has been read. -/
structure Scan where
  frame : Frame := {}
  outer : List Frame := []
  piece : Open := .word []
  pieces : List Open := []
  quoted : Bool := false
  /-- The word is a document, in which quotes mean nothing. -/
  inDocument : Bool := false
  /-- The word is the end of a document, in which nothing is substituted. -/
  isDocumentEnd : Bool := false

namespace Scan

def add (part : Part) (s : Scan) : Scan := { s with piece := s.piece.add part }

def addChar (c : Char) (escaped : Bool) (s : Scan) : Scan := s.add (.char c escaped)

def begin (piece : Open) (s : Scan) : Scan := { s with piece, pieces := s.piece :: s.pieces }

/-- Ends the innermost piece. -/
def finish (s : Scan) : Scan :=
  match s.pieces with
  | outer :: pieces => { s with piece := s.piece.close.foldl (fun o p => o.add p) outer, pieces }
  | [] => s

def push (frame : Frame) (s : Scan) : Scan := { s with frame, outer := s.frame :: s.outer }

def pop (s : Scan) : Scan :=
  match s.outer with
  | frame :: outer => { s with frame, outer }
  | [] => s

def word (s : Scan) : Word := (s.pieces.foldl (fun (s : Scan) _ => s.finish) s).piece.close

/-- Whether nothing but at most one digit has been read. -/
def isDescriptor (s : Scan) : Bool :=
  !s.quoted && match s.piece, s.pieces with
    | .word [], [] => true
    | .word [.char c false], [] => c.isDigit
    | _, _ => false

def mark (s : Scan) : Scan := if s.inDocument then s else s.add .mark

end Scan

/-- What a character means where it stands. -/
inductive Meaning where
  | plain | newline | control | backslash | singleQuote | doubleQuote | endQuote | dollar | endBrace
  | openParen | closeParen | backquote | delimiter
  deriving DecidableEq, Repr

def controls : List Char := ['!', '*', '?', '[', '=', '~', ':', '/', '-', ']']

def delimiters : List Char := ['<', '>', '(', ')', ';', '&', '|', ' ', '\t']

def meaning (quoting : Quoting) (c : Char) : Meaning :=
  if c == '\n' then .newline
  else match quoting with
    | .none =>
      if c == '\\' then .backslash else if c == '\'' then .singleQuote
      else if c == '"' then .doubleQuote else if c == '\x60' then .backquote
      else if c == '$' then .dollar else if c == '\x7d' then .endBrace
      else if delimiters.contains c then .delimiter else .plain
    | .double =>
      if c == '\\' then .backslash else if c == '"' then .endQuote
      else if c == '\x60' then .backquote else if c == '$' then .dollar
      else if c == '\x7d' then .endBrace else if controls.contains c then .control else .plain
    | .single =>
      if c == '\'' then .endQuote
      else if c == '\\' || controls.contains c then .control else .plain
    | .arithmetic =>
      if c == '\\' then .backslash else if c == '\x60' then .backquote
      else if c == '$' then .dollar else if c == '\x7d' then .endBrace
      else if c == '(' then .openParen else if c == ')' then .closeParen else .plain

open Reading

/-! ## Substitutions -/

/-- The operation that stands after a parameter's name between braces, with whether an empty value
counts as none. For `%` and `#` the pattern is read as if outside quotes. -/
def readOperation : Reading (Operation × Bool) := do
  let named (c : Option Char) : Operation := match c with
    | some '\x7d' => .value
    | some '-' => .instead
    | some '+' => .other
    | some '?' => .require
    | some '=' => .assign
    | _ => .bad
  match ← nextJoined with
  | some ':' => return (named (← nextJoined), true)
  | some '%' => return (.cutEnd (← accept '%'), false)
  | some '#' => return (.cutStart (← accept '#'), false)
  | c => return (named c, false)

/-- The name of a parameter between braces that is no variable and no number: `#` before a name
asks for its length. Gives the name, nothing if there is none, and whether the length is meant. -/
def readSpecial (first : Char) (restLength : Nat) : Reading (Option String × Bool) := do
  let special (c : Char) : Option String := if isSpecial c then some c.toString else none
  let c ← nextJoined
  if first != '#' then
    unread c
    return (special first, false)
  else match c with
    | some d =>
      if isNameChar d then
        unread c
        let p := if isNameStart d then isNameChar else Char.isDigit
        return (some (← takeJoined p [] restLength), true)
      else
        let after ← nextJoined
        if d == '\x7d' || after != some '\x7d' then
          unread after
          unread c
          return (some "#", false)
        else
          unread after
          return (special d, true)
    | none =>
      unread c
      return (some "#", false)

/-- Reads a parameter after its dollar sign and, if `braced`, its brace. -/
def readParameter (braced : Bool) (s : Scan) : Reading Scan := do
  let restLength := (← get).rest.length
  let (name, isLength) ← do
    match ← nextJoined with
    | none => pure ((none, false) : Option String × Bool)
    | some c =>
      if isNameStart c then
        unread (some c)
        pure (some (← takeJoined isNameChar [] restLength), false)
      else if c.isDigit then
        if braced then
          unread (some c)
          pure (some (← takeJoined Char.isDigit [] restLength), false)
        else pure (some c.toString, false)
      else if !braced then pure (some c.toString, false)
      else if c == '\x7d' then
        unread (some c)
        pure (none, false)
      else readSpecial c restLength
  if !braced then return s.add (.parameter (name.getD "") .value false [])
  let (operation, orEmpty) ← match name with
    | none => pure (Operation.bad, false)
    | some _ =>
      if isLength then do
        if ← accept '\x7d' then
          unread (some '\x7d')
          pure (.length, false)
        else pure (.bad, false)
      else readOperation
  if operation = .value then return s.add (.parameter (name.getD "") .value orEmpty [])
  let cuts := match operation with
    | .cutEnd _ | .cutStart _ => true
    | _ => false
  let quoting := if cuts then Quoting.none
    else if s.frame.quoting = .arithmetic then .double else s.frame.quoting
  let s := if quoting ≠ s.frame.quoting || s.frame.innerDouble then
      s.push { quoting, isDouble := quoting ≠ .none, endsWithBrace := true }
    else s
  let frame := s.frame
  let s := { s with frame := { frame with
    braces := frame.braces + 1
    doubleBraces := if frame.isDouble then frame.doubleBraces + 1 else frame.doubleBraces } }
  return s.begin (.parameter (name.getD "") operation orEmpty [])

/-- The text up to the closing backquote, in which a backslash takes the meaning of some
characters. -/
def backquoted (inDouble : Bool) (taken : List Char) : Nat → Reading String
  | 0 => mistake "EOF in backquote substitution"
  | fuel + 1 => do
    match ← nextJoined with
    | some '\x60' => return String.ofList taken.reverse
    | some '\\' => do
      match ← next with
      | some c =>
        let taken := if c == '\\' || c == '\x60' || c == '$' || (inDouble && c == '"') then taken
          else '\\' :: taken
        backquoted inDouble (c :: taken) fuel
      | none => mistake "EOF in backquote substitution"
    | some c =>
      if c == '\n' then countLine
      backquoted inDouble (c :: taken) fuel
    | none => mistake "EOF in backquote substitution"

/-- How the lists of commands in substitutions are read: up to a closing parenthesis, or all of a
text. -/
structure Nested where
  parenthesized : Reading (Option Command)
  whole : String → Reading (Option Command)

variable (nested : Nested)

/-- Reads what follows a dollar sign. -/
def readDollar (s : Scan) : Reading Scan := do
  let c ← nextJoined
  let starts (c : Char) : Bool := c == '(' || c == '\x7b' || isNameStart c || isSpecial c
  match c with
  | some d =>
    if s.isDocumentEnd || !starts d then
      unread c
      return s.addChar '$' false
    else if d == '(' then
      if ← accept '(' then
        return (s.push { quoting := .arithmetic, isDouble := true }).begin (.arithmetic [])
      else return s.add (.output (← nested.parenthesized))
    else if d == '\x7b' then readParameter true s
    else
      unread c
      readParameter false s
  | none => return s.addChar '$' false

/-! ## Words -/

/-- A backslash and what follows it. -/
def readBackslash (s : Scan) : Reading Scan := do
  match ← next with
  | none => return s.addChar '\\' true
  | some c =>
    if c == '\n' && !(s.inDocument && s.frame.quoting = .single) then
      countLine
      return s
    let keeps := s.frame.isDouble && c != '\\' && c != '\x60' && c != '$' &&
      (c != '"' || (s.inDocument && s.frame.braces == 0)) && (c != '\x7d' || s.frame.braces == 0)
    let s := if keeps then s.addChar '\\' true else s
    return { s.addChar c true with quoted := true }

def toggleDouble (s : Scan) : Scan :=
  let frame := s.frame
  (if frame.braces == 0 then s
    else { s with frame := { frame with innerDouble := !frame.innerDouble } }).mark

/-- Goes on with a character; nothing if the word ends before it. -/
def readChar (s : Scan) (c : Char) : Reading (Option Scan) := do
  let frame := s.frame
  let plain : Reading (Option Scan) := return some (s.addChar c false)
  match meaning frame.quoting c with
  | .newline =>
    if frame.quoting = .none && frame.braces == 0 then return none
    countLine
    plain
  | .plain => plain
  | .control =>
    return some (s.addChar c (!s.inDocument || frame.isDouble || frame.braces != 0))
  | .backslash => return some (← readBackslash s)
  | .singleQuote => return some { s with frame := { frame with quoting := .single } }.mark
  | .doubleQuote =>
    return some (toggleDouble { s with frame := { frame with quoting := .double, isDouble := true } })
  | .endQuote =>
    if s.inDocument && frame.braces == 0 then plain
    else
      let frame := if frame.doubleBraces == 0 then { frame with quoting := .none, isDouble := false }
        else frame
      let s := { s with frame, quoted := true }
      return some (if c == '"' then toggleDouble s else s.mark)
  | .dollar => return some (← readDollar nested s)
  | .endBrace =>
    if !frame.innerDouble && frame.braces != 0 then
      let frame := { frame with braces := frame.braces - 1 }
      let s := { s with frame }
      let s := if frame.braces == 0 && frame.endsWithBrace then s.pop
        else { s with frame := { frame with doubleBraces := frame.doubleBraces - 1 } }
      return some s.finish
    else plain
  | .openParen =>
    return some ({ s with frame := { frame with parens := frame.parens + 1 } }.addChar c false)
  | .closeParen =>
    if frame.parens != 0 then
      return some ({ s with frame := { frame with parens := frame.parens - 1 } }.addChar c false)
    else if ← accept ')' then return some s.pop.finish
    else plain
  | .backquote =>
    if s.isDocumentEnd then plain
    else
      let text ← backquoted frame.isDouble [] ((← get).rest.length + 1)
      return some (s.add (.output (← nested.whole text)))
  | .delimiter => if frame.braces == 0 then return none else plain

/-- Goes on to the end of the word, which does not belong to it. -/
def readChars (s : Scan) : Nat → Option Char → Reading (Scan × Option Char)
  | _, none => return (s, none)
  | 0, c => return (s, c)
  | fuel + 1, some c => do
    match ← readChar nested s c with
    | none => return (s, some c)
    | some s => readChars s fuel (← next)

/-- What is left open at the end of a word is a mistake. -/
def checkClosed (s : Scan) : Reading Unit := do
  if s.frame.quoting = .arithmetic then mistake "Missing '))'"
  if s.frame.quoting ≠ .none && !s.inDocument then mistake "Unterminated quoted string"
  if s.frame.braces != 0 then mistake "Missing '\x7d'"

/-- Reads a redirection's operator after its first character. The word that follows it is still to
be read; `awaited` tells whether a document is meant, and whether its tabs are stripped. -/
inductive Redirecting where
  | file (mode : FileMode) (fd : Nat)
  | duplicate (fd : Nat)
  | document (fd : Nat) (stripsTabs : Bool)

def readRedirecting (c : Char) (fd : Option Nat) : Reading Redirecting := do
  if c == '>' then
    let fd := fd.getD 1
    match ← nextJoined with
    | some '>' => return .file .append fd
    | some '|' => return .file .clobber fd
    | some '&' => return .duplicate fd
    | c =>
      unread c
      return .file .write fd
  else
    let fd := fd.getD 0
    match ← nextJoined with
    | some '<' => return .document fd (← accept '-')
    | some '&' => return .duplicate fd
    | some '>' => return .file .readWrite fd
    | c =>
      unread c
      return .file .read fd

/-- A word, or the operator of a redirection if that is what begins here. -/
def readWord (first : Char) : Reading (Word × Bool ⊕ Redirecting) := do
  let isDocumentEnd := (← get).checks.documentEnd
  let (s, c) ← readChars nested { isDocumentEnd } ((← get).rest.length + 1) (some first)
  checkClosed s
  let word := s.word
  match c with
  | some c =>
    if (c == '<' || c == '>') && s.isDescriptor then
      let fd := word.head?.bind fun
        | .char d _ => some (d.toNat - '0'.toNat)
        | _ => none
      return .inr (← readRedirecting c fd)
    unread (some c)
  | none => pure ()
  return .inl (word, s.quoted)

/-! ## Documents -/

/-- Takes the line that ends a document, if it comes next. -/
def acceptStop (stop : List Char) : Reading Bool := do
  let s ← get
  if s.rest.take stop.length == stop then
    match s.rest.drop stop.length with
    | '\n' :: rest =>
      set { s with rest, line := s.line + 1 }
      return true
    | [] =>
      if !s.complete then throw .wantsMore
      set { s with rest := [] }
      return true
    | _ => return false
  else if !s.complete && s.rest.length < stop.length && stop.take s.rest.length == s.rest then
    throw .wantsMore
  else return false

def skipTabs : Nat → Reading Unit
  | 0 => pure ()
  | fuel + 1 => do
    match ← next with
    | some '\t' => skipTabs fuel
    | c => unread c

/-- Reads the text of a document, line by line. -/
def readDocumentFrom (a : Awaited) (s : Scan) (atStart : Bool) : Nat → Reading Scan
  | 0 => return s
  | fuel + 1 => do
    if atStart then
      if a.stripsTabs then skipTabs (← get).rest.length
      if ← acceptStop a.stop.toList then return s
    match ← next with
    | none => return s
    | some c =>
      match ← readChar nested s c with
      | none => return s
      | some s => readDocumentFrom a s (c == '\n') fuel

def readDocument (a : Awaited) : Reading Unit := do
  let frame : Frame := if a.expands then { quoting := .double, isDouble := true }
    else { quoting := .single }
  let s ← readDocumentFrom nested a { frame, inDocument := true } true ((← get).rest.length + 1)
  if s.frame.braces != 0 then mistake "Missing '\x7d'"
  if s.frame.quoting = .arithmetic then mistake "Missing '))'"
  modify fun source => { source with
    documents := source.documents.setIfInBounds a.number ⟨a.expands, s.word⟩ }

/-- Reads all documents that are awaited. -/
def readDocuments : Reading Unit := do
  let awaited := (← get).awaited
  modify fun s => { s with awaited := [] }
  for a in awaited do
    readDocument nested a

end PipeShell.Host.Script
