import PipeShell.Power
import PipeShell.Text.Blank
import PipeShell.Text.Pattern.Node

/-! # Reading patterns

A reader goes through a written pattern character by character and stops at the first mistake. Main
definition: `Node.ofString`. -/

namespace PipeShell.Text.Pattern

namespace Reading

structure State where
  position : Position := {}
  rest : List Char
  /-- Whether blanks and comments are passed over. -/
  spaced : Bool := false
  /-- The names of groups and where they stand. -/
  names : List (String × Span) := []

end Reading

abbrev Reading := StateT Reading.State (Except Mistake)

namespace Reading

variable {α : Type}

/-! ## Moving on -/

def here : Reading Position := return (← get).position

def peek? : Reading (Option Char) := return (← get).rest.head?

/-- The character behind the next one. -/
def peekSecond? : Reading (Option Char) := return ((← get).rest.drop 1).head?

def isOver : Reading Bool := return (← get).rest.isEmpty

def fail (cause : Cause) (span : Span) (other : Option Span := none) : Reading α :=
  throw { cause, span, other }

/-- The span from a position to where the reader is. -/
def since (start : Position) : Reading Span := return ⟨start, ← here⟩

def spanHere : Reading Span := do since (← here)

/-- The span of the next character. -/
def spanChar : Reading Span := do
  let p ← here
  return ⟨p, match ← peek? with | some c => p.after c | none => p⟩

/-- Passes the next character, and says whether there are more. -/
def bump : Reading Bool := do
  modify fun s => match s.rest with
    | c :: rest => { s with rest, position := s.position.after c }
    | [] => s
  return !(← isOver)

/-- Passes blanks and comments, if they are to be passed over. -/
def passBlanks : Reading Unit := modify fun s => if s.spaced then go s s.rest false else s
where
  go (s : State) : List Char → Bool → State
    | [], _ => { s with rest := [] }
    | c :: rest, inComment =>
      if inComment then go { s with position := s.position.after c } rest (c != '\n')
      else if isBlank c then go { s with position := s.position.after c } rest false
      else if c == '#' then go { s with position := s.position.after c } rest true
      else { s with rest := c :: rest }

/-- As `bump`, with the blanks behind the character. -/
def bumpOver : Reading Bool := do
  let _ ← bump
  passBlanks
  return !(← isOver)

/-- Passes the next character if `condition` holds, and says whether more characters come or none was passed. -/
def bumpOverWhen (condition : Bool) : Reading Bool := if condition then bumpOver else return true

/-- Passes a text, if it comes next. -/
def bumpIf (text : String) : Reading Bool := do
  if text.toList.isPrefixOf (← get).rest then
    for _ in text.toList do
      let _ ← bump
    return true
  else return false

/-- Takes characters as long as `f` holds. -/
def takeWhile (skips : Bool) (f : Char → Bool) : Reading (List Char) := do
  go (← get).rest.length []
where
  go : Nat → List Char → Reading (List Char)
    | 0, taken => return taken.reverse
    | fuel + 1, taken => do
      match ← peek? with
      | some c =>
        if f c then
          let _ ← if skips then bumpOver else bump
          go fuel (c :: taken)
        else return taken.reverse
      | none => return taken.reverse

/-! ## Numbers and escapes -/

/-- A number of 32 bits; nothing if no digit comes. -/
def decimal? : Reading (Span × Option Nat) := do
  let _ ← takeWhile false isBlank
  let start ← here
  let digits ← takeWhile true Char.isDigit
  let span ← since start
  let _ ← takeWhile true isBlank
  if digits.isEmpty then return (span, none)
  let n := digits.foldl (fun n c => 10 * n + (c.toNat - '0'.toNat)) 0
  if 2 ^ 32 ≤ n then fail .decimalInvalid span
  return (span, some n)

def hexValue? (c : Char) : Option Nat :=
  if c.isDigit then some (c.toNat - '0'.toNat)
  else if 'a' ≤ c && c ≤ 'f' then some (c.toNat - 'a'.toNat + 10)
  else if 'A' ≤ c && c ≤ 'F' then some (c.toNat - 'A'.toNat + 10)
  else none

/-- The character with a number in hexadecimal digits. -/
def charOfHex (digits : List Char) (span : Span) : Reading Char := do
  let n := digits.foldl (fun n c => 16 * n + (hexValue? c).getD 0) 0
  if h : n.isValidChar then return Char.ofNatAux n h else fail .hexNoScalar span

/-- So many hexadecimal digits. -/
def hexDigits (count : Nat) : Reading Char := do
  let start ← here
  let digits ← go true [] count
  charOfHex digits (← since start)
where
  go (isFirst : Bool) (taken : List Char) : Nat → Reading (List Char)
    | 0 => do
      let _ ← bumpOver
      return taken.reverse
    | more + 1 => do
      if !(← bumpOverWhen !isFirst) then fail .escapeUnfinished (← spanHere)
      match ← peek? with
      | some c =>
        if (hexValue? c).isNone then fail .hexDigit (← spanChar)
        go false (c :: taken) more
      | none => fail .hexDigit (← spanChar)

/-- Hexadecimal digits between braces. -/
def hexBraces : Reading Char := do
  let brace ← here
  let start := (← spanChar).stop
  let digits ← go [] (← get).rest.length
  if ← isOver then fail .escapeUnfinished (← since brace)
  let stop ← here
  let _ ← bumpOver
  if digits.isEmpty then fail .hexEmpty (← since brace)
  charOfHex digits ⟨start, stop⟩
where
  go (taken : List Char) : Nat → Reading (List Char)
    | 0 => return taken.reverse
    | fuel + 1 => do
      if !(← bumpOver) then return taken.reverse
      match ← peek? with
      | some '\x7d' | none => return taken.reverse
      | some c =>
        if (hexValue? c).isNone then fail .hexDigit (← spanChar)
        go (c :: taken) fuel

/-- Something that an escape or a single character stands for. -/
inductive Single where
  | letter (l : Letter)
  | any (span : Span)
  | assertion (span : Span) (a : Assertion)
  | property (span : Span) (name : String)
  | letterClass (span : Span) (negated : Bool) (which : LetterClass)

def Single.span : Single → Span
  | letter l => l.span
  | any s | assertion s _ | property s _ | letterClass s .. => s

def Single.node : Single → Node
  | letter l => .letter l
  | any s => .any s
  | assertion s a => .assertion s a
  | property s name => .property s name
  | letterClass s negated which => .letterClass s negated which

/-- What stands between braces is the name of a property, else the next character is. -/
def property (start : Position) : Reading Single := do
  if !(← bumpOver) then fail .escapeUnfinished (← spanHere)
  match ← peek? with
  | some '\x7b' =>
    let _ ← bumpOver
    let name ← takeWhile true (· != '\x7d')
    if ← isOver then fail .escapeUnfinished (← spanHere)
    let _ ← bump
    return .property (← since start) (String.ofList name)
  | some '\\' => fail .propertyInvalid (← spanChar)
  | c =>
    let _ ← bumpOver
    return .property (← since start) (String.ofList c.toList)

/-- The edges of words that have names. -/
def wordEdges : List (String × WordEdge) :=
  [("start", .start), ("end", .stop), ("start-half", .startHalf), ("end-half", .stopHalf)]

/-- The name in braces behind the sign for an edge of a word. If no name can stand there, the braces
are left for a repetition. -/
def wordEdge? (start : Position) : Reading (Option WordEdge) := do
  let before ← get
  let brace ← here
  let belongs (c : Char) : Bool := c.isAlpha || c == '-'
  if !(← bumpOver) then fail .wordEdgeUnfinished (← since start)
  let inside ← here
  match ← peek? with
  | some c =>
    if !belongs c then
      set before
      return none
    let name ← takeWhile true belongs
    if (← peek?) != some '\x7d' then fail .wordEdgeUnclosed (← since brace)
    let stop ← here
    let _ ← bump
    match wordEdges.lookup (String.ofList name) with
    | some edge => return some edge
    | none => fail .wordEdgeUnknown ⟨inside, stop⟩
  | none => fail .wordEdgeUnfinished (← since start)

/-- The control characters that have letters. -/
def controls : List (Char × Char) :=
  [('a', '\x07'), ('f', '\x0c'), ('t', '\t'), ('n', '\n'), ('r', '\r'), ('v', '\x0b')]

/-- Whether a character stands for itself behind a backslash. -/
def isEscapable (c : Char) : Bool := c.toNat < 128 && !c.isAlphanum && c != '<' && c != '>'

def escape : Reading Single := do
  let start ← here
  if !(← bump) then fail .escapeUnfinished (← since start)
  let c := (← peek?).getD '\x00'
  let word (negated : Bool) (which : LetterClass) : Reading Single := do
    let _ ← bump
    return .letterClass (← since start) negated which
  let hex (count : Nat) : Reading Single := do
    if !(← bumpOver) then fail .escapeUnfinished (← spanHere)
    let braces := (← peek?) == some '\x7b'
    let char ← if braces then hexBraces else hexDigits count
    return .letter { span := ← since start, char, asByte := count == 2 && !braces && char.toNat < 256 }
  match c with
  | 'x' => hex 2
  | 'u' => hex 4
  | 'U' => hex 8
  | 'p' | 'P' => property start
  | 'd' => word false .digit
  | 'D' => word true .digit
  | 's' => word false .space
  | 'S' => word true .space
  | 'w' => word false .word
  | 'W' => word true .word
  | c =>
    if c.isDigit then fail .backreference ⟨start, (← spanChar).stop⟩
    let _ ← bump
    let span ← since start
    let assertion (a : Assertion) : Reading Single := return .assertion span a
    if isEscapable c then return .letter { span, char := c }
    match controls.lookup c with
    | some char => return .letter { span, char }
    | none => match c with
      | 'A' => assertion .textStart
      | 'z' => assertion .textStop
      | 'B' => assertion (.word .noBoundary)
      | '<' => assertion (.word .start)
      | '>' => assertion (.word .stop)
      | 'b' =>
        if (← peek?) == some '\x7b' then
          match ← wordEdge? start with
          | some edge => return .assertion (← since start) (.word edge)
          | none => assertion (.word .boundary)
        else assertion (.word .boundary)
      | _ => fail .escapeUnknown span

/-! ## Sets in brackets -/

/-- The classes that have names, by their ranges. -/
def namedSets : List (String × List (Char × Char)) := [
  ("alnum", [('0', '9'), ('A', 'Z'), ('a', 'z')]), ("alpha", [('A', 'Z'), ('a', 'z')]),
  ("ascii", [('\x00', '\x7f')]), ("blank", [('\t', '\t'), (' ', ' ')]),
  ("cntrl", [('\x00', '\x1f'), ('\x7f', '\x7f')]), ("digit", [('0', '9')]),
  ("graph", [('!', '~')]), ("lower", [('a', 'z')]), ("print", [(' ', '~')]),
  ("punct", [('!', '/'), (':', '@'), ('[', '\x60'), ('\x7b', '~')]),
  ("space", [('\t', '\r'), (' ', ' ')]), ("upper", [('A', 'Z')]),
  ("word", [('0', '9'), ('A', 'Z'), ('_', '_'), ('a', 'z')]),
  ("xdigit", [('0', '9'), ('A', 'F'), ('a', 'f')])]

def setOf (ranges : List (Char × Char)) : CharSet :=
  .ofRanges (ranges.map fun (first, last) => (first.toNat, last.toNat))

/-- A named class. If none is written here, the reader stays where it is. -/
def namedSet? : Reading (Option Members) := do
  let before ← get
  let start ← here
  let giveUp : Reading (Option Members) := do
    set before
    return none
  if !(← bump) || (← peek?) != some ':' then return ← giveUp
  if !(← bump) then return ← giveUp
  let negated ← bumpIf "^"
  if ← isOver then return ← giveUp
  let name ← takeWhile false (· != ':')
  if !(← bumpIf ":]") then return ← giveUp
  match namedSets.lookup (String.ofList name) with
  | some ranges => return some (.named (← since start) negated (setOf ranges))
  | none => giveUp

/-- One character of a set, or an escape. -/
def setItem : Reading Single := do
  if (← peek?) == some '\\' then escape
  else
    let l : Letter := { span := ← spanChar, char := (← peek?).getD '\x00' }
    let _ ← bump
    return .letter l

def Single.members : Single → Reading Members
  | letter l => return .letter l
  | property s name => return .property s name
  | letterClass s negated which => return .letterClass s negated which
  | other => fail .classEscape other.span

def Single.bound : Single → Reading Letter
  | letter l => return l
  | other => fail .classRangeLiteral other.span

/-- The first character behind the next one that counts. -/
def peekOver? : Reading (Option Char) := do
  let before ← get
  let _ ← bumpOver
  let c ← peek?
  set before
  return c

/-- A character, a class or a range. A bracket that is still open is to blame if the pattern ends. -/
def setRange (opening : Span) : Reading Members := do
  let first ← setItem
  passBlanks
  if ← isOver then fail .classUnclosed opening
  let following ← peekOver?
  if (← peek?) != some '-' || following == some ']' || following == some '-' then first.members
  else
    if !(← bumpOver) then fail .classUnclosed opening
    let last ← setItem
    let span : Span := ⟨first.span.start, last.span.stop⟩
    let a ← first.bound
    let b ← last.bound
    if b.char < a.char then fail .classRange span
    return .range span a b

/-- The members that have been read, the last one first, and where they begin. -/
def gathered (start : Position) (items : List Members) : Members :=
  match items with
  | [] => .nothing ⟨start, start⟩
  | [m] => m
  | last :: before =>
    let members := before.foldl (fun chain m => .also m chain) last
    .union ⟨members.span.start, last.span.stop⟩ members

/-- Puts what has been read behind an operator together with what stands in front of it. -/
def combined (left : Option (SetOperator × Members)) (right : Members) : Members :=
  match left with
  | none => right
  | some (operator, left) => .combined ⟨left.span.start, right.span.stop⟩ operator left right

/-- What stands at the start of a set: the bracket, a sign that the set is negated, and the
characters that stand for themselves there. -/
def setOpening : Reading (Span × Bool × Position × List Members) := do
  let start ← here
  if !(← bumpOver) then fail .classUnclosed (← since start)
  let negated := (← peek?) == some '^'
  if !(← bumpOverWhen negated) then fail .classUnclosed (← since start)
  let inside ← here
  let dashes ← go start [] (← get).rest.length
  let items ← if dashes.isEmpty && (← peek?) == some ']' then do
      let l : Letter := { span := ← spanChar, char := ']' }
      if !(← bumpOver) then fail .classUnclosed (← since start)
      pure [Members.letter l]
    else pure dashes
  return (← since start, negated, inside, items)
where
  go (start : Position) (items : List Members) : Nat → Reading (List Members)
    | 0 => return items
    | fuel + 1 => do
      if (← peek?) == some '-' then
        let l : Letter := { span := ← spanChar, char := '-' }
        if !(← bumpOver) then fail .classUnclosed ⟨start, start⟩
        go start (.letter l :: items) fuel
      else return items

/-- The operators between sets. -/
def setOperators : List (String × SetOperator) :=
  [("&&", .inter), ("--", .diff), ("~~", .symmDiff)]

/-- Reads a set from its bracket on: its span, whether it is negated, and its members. The number
bounds how many parts it has. -/
def setFrom : Nat → Reading (Span × Bool × Members)
  | 0 => do fail .classUnclosed (← spanHere)
  | fuel + 1 => do
    let (opening, negated, inside, items) ← setOpening
    let members ← parts opening fuel none inside items
    return (⟨opening.start, ← here⟩, negated, members)
where
  /-- Reads members up to the closing bracket. -/
  parts (opening : Span) : Nat → Option (SetOperator × Members) → Position → List Members →
      Reading Members
    | 0, _, _, _ => fail .classUnclosed opening
    | fuel + 1, left, start, items => do
      passBlanks
      if ← isOver then fail .classUnclosed opening
      let rest := (← get).rest
      match setOperators.find? (·.1.toList.isPrefixOf rest) with
      | some (text, operator) =>
        let _ ← bumpIf text
        parts opening fuel (some (operator, combined left (gathered start items))) (← here) []
      | none => match ← peek? with
        | some ']' =>
          let _ ← bump
          return combined left (gathered start items)
        | some '[' => match ← namedSet? with
          | some m => parts opening fuel left start (m :: items)
          | none =>
            let (span, negated, members) ← setFrom fuel
            parts opening fuel left start (.bracketed span negated members :: items)
        | _ => parts opening fuel left start ((← setRange opening) :: items)

/-! ## Groups -/

/-- Whether a character can stand in the name of a group: letters of any script, digits and few
signs. -/
def isNameChar (isFirst : Bool) (c : Char) : Bool :=
  let n := c.toNat
  let isLetter := c.isAlpha || n == 0xAA || n == 0xB5 || n == 0xBA ||
    (0xC0 ≤ n && n != 0xD7 && n != 0xF7 && !(0x2000 ≤ n && n ≤ 0x206F) &&
      !(0x20A0 ≤ n && n ≤ 0x20FF) && !(0x2190 ≤ n && n ≤ 0x2BFF) && !(0x3000 ≤ n && n ≤ 0x3004) &&
      !(0x3008 ≤ n && n ≤ 0x3020) && !(0xE000 ≤ n && n ≤ 0xF8FF) && !(0xFF00 ≤ n && n ≤ 0xFF20) &&
      !(0x1F000 ≤ n && n ≤ 0x1FAFF))
  c == '_' || isLetter || (!isFirst && (c.isDigit || c == '.' || c == '[' || c == ']'))

/-- The name of a group, up to the angle bracket behind it. -/
def groupName : Reading Unit := do
  if ← isOver then fail .groupNameUnfinished (← spanHere)
  let start ← here
  let name ← go start [] (← get).rest.length
  let stop ← here
  if ← isOver then fail .groupNameUnfinished (← spanHere)
  let _ ← bump
  if name.isEmpty then fail .groupNameEmpty ⟨start, start⟩
  let name := String.ofList name
  let span : Span := ⟨start, stop⟩
  match (← get).names.lookup name with
  | some first => fail .groupNameTwice span first
  | none => modify fun s => { s with names := (name, span) :: s.names }
where
  go (start : Position) (taken : List Char) : Nat → Reading (List Char)
    | 0 => return taken.reverse
    | fuel + 1 => do
      match ← peek? with
      | none | some '>' => return taken.reverse
      | some c =>
        if !isNameChar ((← here) == start) c then fail .groupNameInvalid (← spanChar)
        let _ ← bump
        go start (c :: taken) fuel

/-- Flags up to a colon or a parenthesis. -/
def flagChange : Reading FlagChange := do
  go [] none none (← get).rest.length
where
  go (seen : List (Flag × Bool × Span)) (negation dangling : Option Span) : Nat → Reading FlagChange
    | 0 => return []
    | fuel + 1 => do
      match ← peek? with
      | none | some ':' | some ')' =>
        if let some span := dangling then fail .flagDangling span
        return seen.reverse.map fun (flag, value, _) => (flag, value)
      | some c =>
        let span ← spanChar
        let next (seen : List (Flag × Bool × Span)) (negation dangling : Option Span) :
            Reading FlagChange := do
          if !(← bump) then fail .flagUnfinished (← spanHere)
          go seen negation dangling fuel
        if c == '-' then
          if let some first := negation then fail .flagNegatedTwice span first
          next seen (some span) (some span)
        else match Flag.ofChar? c with
          | none => fail .flagUnknown span
          | some flag =>
            if let some (_, _, first) := seen.find? (·.1 == flag) then fail .flagTwice span first
            next ((flag, negation.isNone, span) :: seen) negation none

/-- How a group begins. -/
inductive GroupStart where
  /-- No group, but flags for what follows. -/
  | change (c : FlagChange)
  | group (opening : Span) (c : FlagChange)

def groupStart : Reading GroupStart := do
  let opening ← spanChar
  let _ ← bump
  passBlanks
  for text in ["?=", "?!", "?<=", "?<!"] do
    if ← bumpIf text then fail .lookAround (← since opening.start)
  let inner ← spanHere
  let isNamed ← if ← bumpIf "?P<" then pure true else bumpIf "?<"
  if isNamed then
    groupName
    return .group opening []
  else if ← bumpIf "?" then
    if ← isOver then fail .groupUnclosed opening
    let change ← flagChange
    let closes := (← peek?) == some ')'
    let _ ← bump
    if closes then
      if change.isEmpty then fail .repetitionMissing inner
      return .change change
    else return .group opening change
  else return .group opening []

/-! ## The whole pattern -/

/-- A count in braces: the least and the greatest number. -/
def counts (start : Position) : Reading (Nat × Option Nat) := do
  let unclosed : Reading (Nat × Option Nat) := do fail .countUnclosed (← since start)
  if !(← bumpOver) then return ← unclosed
  let (span, least) ← decimal?
  let known (n : Option Nat) (span : Span) : Reading Nat :=
    match n with
    | some n => return n
    | none => fail .countEmpty span
  if ← isOver then return ← unclosed
  let range ← if (← peek?) == some ',' then do
      if !(← bumpOver) then return ← unclosed
      if (← peek?) != some '\x7d' then
        let n ← known least span
        let (span, most) ← decimal?
        pure (n, some (← known most span))
      else pure (← known least span, none)
    else do
      let n ← known least span
      pure (n, some n)
  if (← peek?) != some '\x7d' then return ← unclosed
  let more ← bumpOver
  if more && (← peek?) == some '?' then
    let _ ← bump
  if let (least, some most) := range then
    if most < least then fail .countOrder (← since start)
  return range

/-- The part that an operator repeats, and the parts before it. -/
def repeatable (parts : List Node) : Reading (Node × List Node) := do
  match parts with
  | [] | .empty :: _ | .flags _ :: _ => fail .repetitionMissing (← spanHere)
  | body :: before => return (body, before)

def startOf (n : Node) (default : Position) : Position := (n.span?.map (·.start)).getD default

/-- What has been read of a sequence, the last part first. -/
def finished (start : Position) (parts : List Node) : Reading Node := do
  match parts with
  | [] => return .empty
  | [n] => return n
  | parts => return .sequence (← since start) (Node.chain parts.reverse)

/-- Reads parts up to the end of the group, whose opening parenthesis it is told of. The number
bounds how many there are. -/
def partsOf (opening : Option Span) (start : Position) : Nat → Position → List Node → List Node →
    Reading Node
  | 0, _, _, _ => return .empty
  | fuel + 1, from', branches, parts => do
    passBlanks
    let close : Reading Node := do
      let last ← finished from' parts
      match branches with
      | [] => return last
      | branches => return .alternatives (← since start) (Node.chain (last :: branches).reverse)
    let again (least : Nat) (most : Option Nat) : Reading Node := do
      let at' ← here
      let (body, before) ← repeatable parts
      if (← bump) && (← peek?) == some '?' then
        let _ ← bump
      let span ← since (startOf body at')
      partsOf opening start fuel from' branches (.repeated span body least most :: before)
    match ← peek? with
    | none => match opening with
      | some opening => fail .groupUnclosed opening
      | none => close
    | some ')' => match opening with
      | none => fail .groupUnopened (← spanChar)
      | some _ => do
        let node ← close
        let _ ← bump
        return node
    | some '|' => do
      let branch ← finished from' parts
      let _ ← bump
      partsOf opening start fuel (← here) (branch :: branches) []
    | some '(' => do
      let at' ← here
      match ← groupStart with
      | .change change =>
        if let some (_, value) := change.find? (·.1 == .spaced) then
          modify fun s => { s with spaced := value }
        partsOf opening start fuel from' branches (.flags change :: parts)
      | .group inner change =>
        let spaced := (← get).spaced
        if let some (_, value) := change.find? (·.1 == .spaced) then
          modify fun s => { s with spaced := value }
        let inside ← here
        let body ← partsOf (some inner) inside fuel inside [] []
        modify fun s => { s with spaced }
        let span ← since at'
        partsOf opening start fuel from' branches (.group span change body :: parts)
    | some '[' => do
      let (span, negated, members) ← setFrom (2 * (← get).rest.length + 2)
      partsOf opening start fuel from' branches (.bracketed span negated members :: parts)
    | some '?' => again 0 (some 1)
    | some '*' => again 0 none
    | some '+' => again 1 none
    | some '\x7b' => do
      let at' ← here
      let (body, before) ← repeatable parts
      let (least, most) ← counts at'
      let span ← since (startOf body at')
      partsOf opening start fuel from' branches (.repeated span body least most :: before)
    | some '\\' => do
      let single ← escape
      partsOf opening start fuel from' branches (single.node :: parts)
    | some c => do
      let span ← spanChar
      let _ ← bump
      let node : Node := match c with
        | '.' => .any span
        | '^' => .assertion span .lineStart
        | '$' => .assertion span .lineStop
        | c => .letter { span, char := c }
      partsOf opening start fuel from' branches (node :: parts)

end Reading

/-- The parts of a written pattern. -/
def Node.ofString (text : String) : Except Mistake Node := do
  let cs := text.toList
  let start : Position := {}
  let (node, _) ← (Reading.partsOf none start (2 * cs.length + 2) start [] []).run { rest := cs }
  match node.tooDeep? 0 with
  | some span => throw { cause := .nestedTooDeep maxDepth, span }
  | none => return node

end PipeShell.Text.Pattern
