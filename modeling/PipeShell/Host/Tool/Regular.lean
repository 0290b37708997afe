import PipeShell.Host.ByteText

/-! # Regular expressions

The expressions in which groups and alternatives are written with backslashes. A match is the
longest that starts at the earliest place where there is one. -/

namespace PipeShell.Host.Tool

/-- What is asked of a place between two characters. -/
inductive Edge where
  | textStart | textStop | lineStart | lineStop | wordStart | wordStop | wordEdge | noWordEdge
  deriving DecidableEq, Repr

/-- An expression. -/
inductive Regular where
  | empty
  | char (c : Char)
  | oneOf (negated : Bool) (ranges : List (Char × Char))
  | edge (e : Edge)
  | group (index : Nat) (r : Regular)
  | again (index : Nat)
  | both (r s : Regular)
  | either (r s : Regular)
  /-- As often as is possible, between two bounds. -/
  | times (r : Regular) (least : Nat) (most : Option Nat)
  deriving Inhabited

namespace Regular

/-! ## Reading -/

/-- How expressions are written. -/
structure Dialect where
  /-- `+` and `?` are signs without a backslash. -/
  plainRepeats : Bool := false
  /-- Counts are written in braces, and classes in brackets by name. -/
  counts : Bool := true
  /-- The one character that a dot does not stand for. -/
  undotted : Char := '\x00'
  /-- `^` and `$` hold at every line. -/
  lines : Bool := false

namespace Dialect

def basic : Dialect := {}

/-- The expressions of an editor, in which everything but groups and alternatives does without
backslashes. -/
def editor : Dialect := { plainRepeats := true, counts := false, undotted := '\n', lines := true }

end Dialect

/-- What is wrong with an expression. -/
inductive Mistake where
  /-- A bracket opens at the very end. -/
  | bareBracket
  | unmatchedBracket
  | unmatchedGroup
  | unmatchedClose
  | unmatchedBrace
  | badBrace
  | tooLarge
  | trailingBackslash
  | badClass
  | badElement
  | badRange
  | badReference
  deriving DecidableEq, Repr

def Mistake.message : Mistake → String
  | bareBracket => "Invalid regular expression"
  | unmatchedBracket => "Unmatched [, [^, [:, [., or [="
  | unmatchedGroup => "Unmatched ( or \\("
  | unmatchedClose => "Unmatched ) or \\)"
  | unmatchedBrace => "Unmatched \\\x7b"
  | badBrace => "Invalid content of \\\x7b\\\x7d"
  | tooLarge => "Regular expression too big"
  | trailingBackslash => "Trailing backslash"
  | badClass => "Invalid character class name"
  | badElement => "Invalid collation character"
  | badRange => "Invalid range end"
  | badReference => "Invalid back reference"

def classRanges : List (String × List (Char × Char)) := [
  ("alpha", [('a', 'z'), ('A', 'Z')]), ("digit", [('0', '9')]),
  ("alnum", [('a', 'z'), ('A', 'Z'), ('0', '9')]), ("upper", [('A', 'Z')]), ("lower", [('a', 'z')]),
  ("space", [(' ', ' '), ('\t', '\r')]), ("blank", [(' ', ' '), ('\t', '\t')]),
  ("punct", [('!', '/'), (':', '@'), ('[', '\x60'), ('\x7b', '~')]), ("print", [(' ', '~')]),
  ("graph", [('!', '~')]), ("cntrl", [('\x00', '\x1f'), ('\x7f', '\x7f')]),
  ("xdigit", [('0', '9'), ('a', 'f'), ('A', 'F')])]

/-- The characters of words. -/
def wordRanges : List (Char × Char) := [('a', 'z'), ('A', 'Z'), ('0', '9'), ('_', '_')]

def spaceRanges : List (Char × Char) := [(' ', ' '), ('\t', '\r')]

/-- What stands in front of a sign and a bracket. -/
def untilSign (sign : Char) (taken : List Char) : List Char → Option (List Char × List Char)
  | c :: ']' :: rest => if c == sign then some (taken.reverse, rest) else untilSign sign (c :: taken) (']' :: rest)
  | c :: rest => untilSign sign (c :: taken) rest
  | [] => none

/-- An element in brackets: a character or a class. -/
inductive Element where
  | char (c : Char)
  | ranges (ranges : List (Char × Char))

/-- Reads one element in brackets. -/
def element (d : Dialect) : List Char → Except Mistake (Element × List Char)
  | [] => throw .unmatchedBracket
  | '[' :: sign :: rest =>
    if (sign == ':' && d.counts) || sign == '.' || sign == '=' then
      match untilSign sign [] rest with
      | none => throw .unmatchedBracket
      | some (name, rest) =>
        if sign == ':' then match classRanges.lookup (String.ofList name) with
          | some ranges => pure (.ranges ranges, rest)
          | none => throw .badClass
        else match name with
          | [c] => pure (.char c, rest)
          | _ => throw .badElement
    else pure (.char '[', sign :: rest)
  | c :: rest => pure (.char c, rest)

/-- Reads what stands in brackets, up to the closing one. A range that ends before it begins holds
nothing. -/
def brackets (d : Dialect) (ranges : List (Char × Char)) (isFirst : Bool) (cs : List Char) :
    Nat → Except Mistake (List (Char × Char) × List Char)
  | 0 => throw .unmatchedBracket
  | fuel + 1 => do
    match cs, isFirst with
    | ']' :: rest, false => pure (ranges, rest)
    | cs, _ =>
      let (first, rest) ← element d cs
      match rest with
      | '-' :: ']' :: _ | '-' :: [] => brackets d (ranges ++ own first) false rest fuel
      | '-' :: after =>
        let (last, rest) ← element d after
        match first, last with
        | .char a, .char b => brackets d (if b < a then ranges else ranges ++ [(a, b)]) false rest fuel
        | _, _ => throw .badRange
      | rest => brackets d (ranges ++ own first) false rest fuel
where
  own : Element → List (Char × Char)
    | .char c => [(c, c)]
    | .ranges rs => rs

/-- The largest bound. -/
def maxBound : Nat := 32767

/-- Where a number in braces ends. -/
inductive NumberEnd where
  | close | comma | nothing
  deriving DecidableEq

/-- Reads a number in braces: the number, if there are digits and nothing else; whether there is
something else; and what ends it. -/
def boundNumber (n : Option Nat) (isBad : Bool) : List Char → Option Nat × Bool × NumberEnd × List Char
  | [] => (n, true, .nothing, [])
  | '\\' :: '\x7d' :: rest => (n, isBad, .close, rest)
  | '\\' :: _ :: rest => boundNumber n true rest
  | ',' :: rest => (n, isBad, .comma, rest)
  | c :: rest =>
    if c.isDigit then boundNumber (some (min (maxBound + 1) (n.getD 0 * 10 + (c.toNat - 48)))) isBad rest
    else boundNumber n true rest

/-- Reads bounds up to the closing brace. -/
def bounds (cs : List Char) : Except Mistake (Nat × Option Nat × List Char) := do
  let broken (e : NumberEnd) : Mistake := if e = .nothing then .unmatchedBrace else .badBrace
  let (first, isBad, stop, rest) := boundNumber none false cs
  if isBad then throw (broken stop)
  if first.isNone && stop != .comma then throw .badBrace
  let least := first.getD 0
  let (most, rest) ← match stop with
    | .comma =>
      let (most, isBad, stop, rest) := boundNumber none false rest
      if isBad then throw (broken stop)
      if stop != .close then throw .badBrace
      pure (most, rest)
    | _ => pure (some least, rest)
  if most.any fun m => m < least then throw .badBrace
  if maxBound < most.getD least then throw .tooLarge
  pure (least, most, rest)

/-- The parts that expressions are written with. -/
inductive Sign where
  | item (r : Regular)
  | edge (e : Edge)
  | bracket | openGroup | closeGroup | alternative
  | again (index : Nat)
  /-- A repetition, and the character that it stands for where nothing can be repeated. -/
  | repetition (least : Nat) (most : Option Nat) (c : Char)
  | count
  | loneBackslash

/-- The sign for what stands behind a backslash. -/
def escapedSign (d : Dialect) (c : Char) : Sign :=
  match c with
  | '|' => .alternative
  | '(' => .openGroup
  | ')' => .closeGroup
  | '<' => .edge .wordStart
  | '>' => .edge .wordStop
  | 'b' => .edge .wordEdge
  | 'B' => .edge .noWordEdge
  | '\x60' => .edge .textStart
  | '\'' => .edge .textStop
  | 'w' => .item (.oneOf false wordRanges)
  | 'W' => .item (.oneOf true wordRanges)
  | 's' => .item (.oneOf false spaceRanges)
  | 'S' => .item (.oneOf true spaceRanges)
  | c =>
    if c.isDigit && c != '0' then .again (c.toNat - '0'.toNat)
    else if c == '+' && !d.plainRepeats then .repetition 1 none c
    else if c == '?' && !d.plainRepeats then .repetition 0 (some 1) c
    else if c == '\x7b' && d.counts then .count
    else .item (.char c)

/-- Whether a dollar sign in front of these characters is an edge. -/
def endsBranch (cs : List Char) : Bool :=
  cs.isEmpty || cs.take 2 == ['\\', ')'] || cs.take 2 == ['\\', '|']

/-- The next sign; `anchors` says whether a caret is an edge here. -/
def nextSign (d : Dialect) (anchors : Bool) : List Char → Option (Sign × List Char)
  | [] => none
  | ['\\'] => some (.loneBackslash, [])
  | '\\' :: c :: rest => some (escapedSign d c, rest)
  | c :: rest =>
    let sign : Sign := match c with
      | '*' => .repetition 0 none c
      | '[' => .bracket
      | '.' => .item (.oneOf true [(d.undotted, d.undotted)])
      | '^' =>
        if anchors then .edge (if d.lines then .lineStart else .textStart) else .item (.char c)
      | '$' =>
        if endsBranch rest then .edge (if d.lines then .lineStop else .textStop) else .item (.char c)
      | _ =>
        if c == '+' && d.plainRepeats then .repetition 1 none c
        else if c == '?' && d.plainRepeats then .repetition 0 (some 1) c
        else .item (.char c)
    some (sign, rest)

/-- Which groups have been met. -/
structure ReadState where
  /-- How many have been opened. -/
  groups : Nat := 0
  closed : List Nat := []

/-- What has been read of alternatives. -/
structure Branches where
  done : Option Regular := none
  /-- The groups that were closed before the first branch, and those that the branches before the
  last one have closed. A branch may ask only for the former and its own. -/
  closedBefore : List Nat := []
  closedElsewhere : List Nat := []
  /-- The items of the last branch, the last one first. -/
  items : List Regular := []
  /-- Whether the last item can be repeated. -/
  repeatable : Bool := false
  /-- Whether a caret is an edge here. -/
  anchors : Bool := true

namespace Branches

def whole (b : Branches) : Regular :=
  let branch := b.items.foldl (fun all r => .both r all) Regular.empty
  match b.done with
  | some r => .either r branch
  | none => branch

def add (r : Regular) (b : Branches) : Branches :=
  { b with items := r :: b.items, repeatable := true, anchors := false }

/-- An edge cannot be repeated. -/
def addEdge (e : Edge) (b : Branches) : Branches :=
  { b with items := .edge e :: b.items, repeatable := false, anchors := true }

def repeatLast (least : Nat) (most : Option Nat) (b : Branches) : Branches :=
  match b.items with
  | r :: before => { b with items := .times r least most :: before, anchors := false }
  | [] => b

end Branches

/-- Reads alternatives, up to the end or the end of a group. A repetition of nothing stands for
itself. -/
def alternatives (d : Dialect) (depth : Nat) (s : ReadState) (b : Branches) (cs : List Char) :
    Nat → Except Mistake (Regular × ReadState × List Char)
  | 0 => throw .unmatchedGroup
  | fuel + 1 => do
    let finished : ReadState := { s with closed := s.closed ++ b.closedElsewhere }
    match nextSign d b.anchors cs with
    | none => if depth == 0 then pure (b.whole, finished, []) else throw .unmatchedGroup
    | some (sign, rest) => match sign with
      | .loneBackslash => throw .trailingBackslash
      | .item r => alternatives d depth s (b.add r) rest fuel
      | .edge e => alternatives d depth s (b.addEdge e) rest fuel
      | .closeGroup => if depth == 0 then throw .unmatchedClose else pure (b.whole, finished, rest)
      | .alternative =>
        alternatives d depth { s with closed := b.closedBefore }
          { done := some b.whole, closedBefore := b.closedBefore, closedElsewhere := finished.closed }
          rest fuel
      | .openGroup => do
        let index := s.groups + 1
        let (r, s, rest) ←
          alternatives d (depth + 1) { s with groups := index } { closedBefore := s.closed } rest fuel
        alternatives d depth { s with closed := index :: s.closed } (b.add (.group index r)) rest fuel
      | .again index =>
        if s.closed.contains index then alternatives d depth s (b.add (.again index)) rest fuel
        else throw .badReference
      | .repetition least most c =>
        if b.repeatable then alternatives d depth s (b.repeatLast least most) rest fuel
        else alternatives d depth s (b.add (.char c)) rest fuel
      | .count =>
        if b.repeatable then
          let (least, most, rest) ← bounds rest
          alternatives d depth s (b.repeatLast least most) rest fuel
        else alternatives d depth s (b.add (.char '\x7b')) rest fuel
      | .bracket =>
        let (negated, rest) := match rest with
          | '^' :: rest => (true, rest)
          | rest => (false, rest)
        if rest.isEmpty then throw .bareBracket
        let (ranges, rest) ← brackets d [] true rest (rest.length + 2)
        alternatives d depth s (b.add (.oneOf negated ranges)) rest fuel

/-- Reads an expression, and says how many groups it has. -/
def ofString? (d : Dialect) (text : String) : Except Mistake (Regular × Nat) := do
  let cs := text.toList
  let (r, s, _) ← alternatives d 0 {} {} cs (2 * cs.length + 2)
  pure (r, s.groups)

/-! ## Matching -/

/-- Where groups have matched. -/
abbrev Groups := List (Nat × Nat × Nat)

/-- A place in a text. -/
structure Place where
  position : Nat
  groups : Groups := []

def inRanges (ranges : List (Char × Char)) (c : Char) : Bool :=
  ranges.any fun (first, last) => first ≤ c && c ≤ last

/-- Whether a place is as an edge asks. -/
def isAt (e : Edge) (text : Array Char) (position : Nat) : Bool :=
  let before := if position == 0 then none else text[position - 1]?
  let after := text[position]?
  let isWord (c : Option Char) : Bool := c.any (inRanges wordRanges)
  match e with
  | .textStart => before.isNone
  | .textStop => after.isNone
  | .lineStart => before.isNone || before == some '\n'
  | .lineStop => after.isNone || after == some '\n'
  | .wordStart => !isWord before && isWord after
  | .wordStop => isWord before && !isWord after
  | .wordEdge => isWord before != isWord after
  | .noWordEdge => isWord before == isWord after

/-- Whether what a group has matched is asked for again. -/
def looksBack : Regular → Bool
  | .again _ => true
  | .group _ r | .times r _ _ => looksBack r
  | .both r s | .either r s => looksBack r || looksBack s
  | _ => false

/-- Of the places with one position, the first. -/
def firstOfEach (places : List Place) : List Place := go [] places
where
  go (seen : List Nat) : List Place → List Place
    | [] => []
    | p :: ps => if seen.contains p.position then go seen ps else p :: go (p.position :: seen) ps

section

-- Whether places that differ in what groups have matched are told apart.
variable (text : Array Char) (distinct : Bool)

def keep (places : List Place) : List Place := if distinct then places else firstOfEach places

/-- All places where a match from a place can end, those that are preferred first. The number bounds
how deep the search goes. -/
def ends (r : Regular) (place : Place) : Nat → List Place
  | 0 => []
  | fuel + 1 =>
    let step (holds : Bool) : List Place :=
      if holds then [{ place with position := place.position + 1 }] else []
    match r with
    | .empty => [place]
    | .char c => step (text[place.position]? == some c)
    | .oneOf negated ranges => match text[place.position]? with
      | some c => step (inRanges ranges c != negated)
      | none => []
    | .edge e => if isAt e text place.position then [place] else []
    | .group index r => (ends r place fuel).map fun after =>
      { after with groups := (index, place.position, after.position) ::
          after.groups.filter (·.1 != index) }
    | .again index => match place.groups.lookup index with
      | none => []
      | some (first, last) =>
        let part := text.extract first last
        if text.extract place.position (place.position + part.size) == part then
          [{ place with position := place.position + part.size }]
        else []
    | .both r s => keep distinct ((ends r place fuel).flatMap fun middle => ends s middle fuel)
    | .either r s => keep distinct (ends r place fuel ++ ends s place fuel)
    | .times r least most =>
      let more : List Place :=
        if most == some 0 then []
        else keep distinct ((ends r place fuel).flatMap fun middle =>
          if middle.position == place.position && least == 0 then []
          else ends (.times r (least - 1) (most.map (· - 1))) middle fuel)
      if least == 0 then more ++ [place] else more

end

/-- How deep a search of a text may go. -/
def depth (text : Array Char) : Nat := 1000 + 4 * text.size

/-- The longest match that starts at a position. -/
def matchAt? (r : Regular) (text : Array Char) (position : Nat) : Option Place :=
  (ends text r.looksBack r { position } (depth text)).foldl
    (fun best place => match best with
      | some b => if b.position < place.position then some place else some b
      | none => some place)
    none

/-- Whether there is a match anywhere. -/
def occursIn (r : Regular) (text : Array Char) : Bool :=
  (List.range (text.size + 1)).any fun i => (r.matchAt? text i).isSome

end Regular
end PipeShell.Host.Tool
