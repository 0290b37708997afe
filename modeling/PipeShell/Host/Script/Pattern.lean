/-! # Patterns

Patterns match whole texts: `*` any number of characters, `?` one, and brackets one of a class.
Characters that were quoted stand for themselves, and so does one behind a backslash. -/

namespace PipeShell.Host.Script

/-- A pattern's characters, each with whether it was quoted. -/
abbrev Pattern := List (Char × Bool)

namespace Pattern

/-- The classes that can be named in brackets. -/
def classNamed? : String → Option (Char → Bool)
  | "alnum" => some Char.isAlphanum
  | "alpha" => some Char.isAlpha
  | "blank" => some fun c => c == ' ' || c == '\t'
  | "cntrl" => some fun c => c.toNat < 32 || c.toNat == 127
  | "digit" => some Char.isDigit
  | "graph" => some fun c => 32 < c.toNat && c.toNat < 127
  | "lower" => some Char.isLower
  | "print" => some fun c => 32 ≤ c.toNat && c.toNat < 127
  | "punct" => some fun c => 32 < c.toNat && c.toNat < 127 && !c.isAlphanum
  | "space" => some fun c => c == ' ' || (9 ≤ c.toNat && c.toNat ≤ 13)
  | "upper" => some Char.isUpper
  | "xdigit" => some fun c => c.isDigit || ('a' ≤ c && c ≤ 'f') || ('A' ≤ c && c ≤ 'F')
  | _ => none

/-- A class by name at the start, after its opening bracket, and what follows it. -/
def namedClass? : Pattern → Option ((Char → Bool) × Pattern)
  | (':', false) :: rest =>
    let name := rest.takeWhile fun (c, _) => c.isAlpha
    match rest.drop name.length with
    | (':', false) :: (']', false) :: rest =>
      (classNamed? (String.ofList (name.map (·.1)))).map (·, rest)
    | _ => none
  | _ => none

/-- One member of a class, a backslash being in front of it or not. -/
def member? : Pattern → Option (Char × Pattern)
  | ('\\', false) :: (c, _) :: rest => some (c, rest)
  | (c, _) :: rest => some (c, rest)
  | [] => none

/-- Whether a character is in the class whose members come next, and what follows its closing
bracket; nothing if it is never closed. A bracket in the first place is a member. -/
def classHas (chr : Char) (found first : Bool) : Nat → Pattern → Option (Bool × Pattern)
  | 0, _ | _, [] => none
  | fuel + 1, (']', false) :: rest =>
    if first then memberHas chr found fuel ((']', false) :: rest) else some (found, rest)
  | fuel + 1, ('[', false) :: rest =>
    match namedClass? rest with
    | some (p, rest) => classHas chr (found || p chr) false fuel rest
    | none => memberHas chr found fuel (('[', false) :: rest)
  | fuel + 1, p => memberHas chr found fuel p
where
  /-- Goes on after one member or one range. -/
  memberHas (chr : Char) (found : Bool) (fuel : Nat) (p : Pattern) : Option (Bool × Pattern) :=
    match member? p with
    | none => none
    | some (low, ('-', false) :: (']', false) :: rest) =>
      classHas chr (found || chr == low) false fuel (('-', false) :: (']', false) :: rest)
    | some (low, ('-', false) :: rest) => match member? rest with
      | none => none
      | some (high, rest) => classHas chr (found || (low ≤ chr && chr ≤ high)) false fuel rest
    | some (c, rest) => classHas chr (found || chr == c) false fuel rest

/-- Whether a character is in a bracketed class, and what follows it; nothing if the bracket opens
no class. -/
def bracket? (chr : Char) (p : Pattern) : Option (Bool × Pattern) :=
  match p with
  | ('!', false) :: rest => (classHas chr false true (rest.length + 1) rest).map fun (b, r) => (!b, r)
  | rest => classHas chr false true (rest.length + 1) rest

/-- Whether the pattern matches a text as a whole. The number is more than both are long. -/
def matchesFrom : Nat → Pattern → List Char → Bool
  | 0, _, _ => false
  | _ + 1, [], cs => cs.isEmpty
  | fuel + 1, ('\\', false) :: (c, _) :: rest, cs => match cs with
    | d :: cs => c == d && matchesFrom fuel rest cs
    | [] => false
  | fuel + 1, ('*', false) :: rest, cs =>
    matchesFrom fuel rest cs || match cs with
      | _ :: more => matchesFrom fuel (('*', false) :: rest) more
      | [] => false
  | fuel + 1, ('?', false) :: rest, cs => match cs with
    | _ :: cs => matchesFrom fuel rest cs
    | [] => false
  | fuel + 1, ('[', false) :: rest, cs => match cs with
    | [] => false
    | d :: cs => match bracket? d rest with
      | some (found, rest) => found && matchesFrom fuel rest cs
      | none => d == '[' && matchesFrom fuel rest cs
  | fuel + 1, (c, _) :: rest, cs => match cs with
    | d :: cs => c == d && matchesFrom fuel rest cs
    | [] => false

def matchesText (p : Pattern) (text : List Char) : Bool :=
  matchesFrom (p.length + text.length + 1) p text

/-- A pattern that matches this text and no other. -/
def ofText (text : String) : Pattern := text.toList.map (·, true)

/-- The text for which a pattern without special characters stands. -/
def literal : Pattern → String
  | ('\\', false) :: (c, _) :: rest => String.ofList [c] ++ literal rest
  | (c, _) :: rest => String.ofList [c] ++ literal rest
  | [] => ""

/-! ## Cutting -/

/-- What is left of a text when the shortest or longest start that matches is cut off. -/
def cutStart (p : Pattern) (longest : Bool) (text : List Char) : List Char :=
  let lengths := List.range (text.length + 1)
  let fits (n : Nat) : Bool := p.matchesText (text.take n)
  match (if longest then lengths.reverse else lengths).find? fits with
  | some n => text.drop n
  | none => text

/-- As `cutStart`, at the end. -/
def cutEnd (p : Pattern) (longest : Bool) (text : List Char) : List Char :=
  let lengths := List.range (text.length + 1)
  let fits (n : Nat) : Bool := p.matchesText (text.drop n)
  match (if longest then lengths else lengths.reverse).find? fits with
  | some n => text.take n
  | none => text

/-! ## File names -/

/-- Whether a bracket opens a class that is closed before the next slash. -/
def closesBracket : Pattern → Bool
  | [] => false
  | ('/', _) :: _ => false
  | (']', false) :: _ => true
  | _ :: rest => closesBracket rest

/-- Whether a part of a path stands for more than one name. -/
def isSpecial : Pattern → Bool
  | [] => false
  | ('\\', false) :: _ :: rest => isSpecial rest
  | ('*', false) :: _ | ('?', false) :: _ => true
  | ('[', false) :: rest =>
    let members := match rest with
      | ('!', false) :: rest => rest
      | rest => rest
    closesBracket (members.drop 1) || isSpecial rest
  | _ :: rest => isSpecial rest

/-- The parts of a pattern between its slashes. -/
def components (p : Pattern) : List Pattern :=
  match p with
  | [] => [[]]
  | ('/', _) :: rest => [] :: components rest
  | c :: rest => match components rest with
    | first :: more => (c :: first) :: more
    | [] => [[c]]

/-- Whether a pattern asks for names with a dot in front. -/
def asksForHidden : Pattern → Bool
  | ('\\', false) :: ('.', _) :: _ | ('.', _) :: _ => true
  | _ => false

/-- The paths that a pattern stands for: `namesIn` gives the names in a directory, if it is one,
and `exists` tells whether there is something at a path. -/
def paths (namesIn : String → Option (List String)) (isThere : String → Bool) :
    String → List Pattern → List String
  | dir, parts =>
    let lead := parts.takeWhile (!isSpecial ·)
    let before := "/".intercalate (lead.map literal)
    match _h : parts.drop lead.length with
    | [] => if dir.isEmpty then [] else if isThere (dir ++ before) then [dir ++ before] else []
    | part :: rest =>
      let dir := if lead.isEmpty then dir else dir ++ before ++ "/"
      match namesIn (if dir.isEmpty then "." else dir) with
      | none => []
      | some names =>
        let fits (name : String) : Bool :=
          (!name.startsWith "." || asksForHidden part) && part.matchesText name.toList
        (names.filter fits).flatMap fun name =>
          if rest.isEmpty then [dir ++ name] else paths namesIn isThere (dir ++ name ++ "/") rest
  termination_by _ parts => parts.length
  decreasing_by
    have := congrArg List.length _h
    simp at this
    omega

end Pattern
end PipeShell.Host.Script
