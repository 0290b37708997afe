import PipeShell.Text.CharSet

/-! # Patterns

Regular expressions over characters: sets, alternatives, repetitions and assertions about a place. A
pattern is searched for by the sets of places at which a match may end, so no search takes more
steps than the text has places, and none depends on how often a repetition may go round. -/

namespace PipeShell.Text

/-- Where a place stands to the words around it. -/
inductive WordEdge where
  | boundary | noBoundary
  | start | stop
  /-- Nothing of a word in front, and nothing of one behind. -/
  | startHalf | stopHalf
  deriving DecidableEq, Repr

/-- What can be demanded of a place. -/
inductive Look where
  | start | stop
  /-- The start and the end of a line; carriage returns end lines too if `returns`. -/
  | lineStart (returns : Bool)
  | lineStop (returns : Bool)
  /-- As words are told by the letters of ASCII, or by those of all scripts. -/
  | word (edge : WordEdge) (allScripts : Bool)
  deriving DecidableEq, Repr

inductive Pattern where
  | empty
  | oneOf (set : CharSet)
  | look (demand : Look)
  | group (body : Pattern)
  | sequence (first second : Pattern)
  | either (first second : Pattern)
  /-- At least and at most so often in a row. -/
  | repeated (body : Pattern) (least : Nat) (most : Option Nat)
  deriving Inhabited

namespace Pattern

/-! ## Places -/

def isWordChar (c : Char) : Bool := c.isAlphanum || c == '_'

/-- Whether a place meets a demand. -/
def Look.holds (text : Array Char) (place : Nat) (demand : Look) : Bool :=
  let before := if place == 0 then none else text[place - 1]?
  let behind := text[place]?
  let inWord (c : Option Char) : Bool := (c.map isWordChar).getD false
  match demand with
  | .start => before.isNone
  | .stop => behind.isNone
  | .lineStart false => before.isNone || before == some '\n'
  | .lineStop false => behind.isNone || behind == some '\n'
  | .lineStart true =>
    before.isNone || before == some '\n' || (before == some '\r' && behind != some '\n')
  | .lineStop true =>
    behind.isNone || behind == some '\r' || (behind == some '\n' && before != some '\r')
  | .word edge _ => match edge with
    | .boundary => inWord before != inWord behind
    | .noBoundary => inWord before == inWord behind
    | .start => !inWord before && inWord behind
    | .stop => inWord before && !inWord behind
    | .startHalf => !inWord before
    | .stopHalf => !inWord behind

/-! ## Searching -/

/-- Goes exactly so many rounds. -/
def rounds (round : List Nat → List Nat) (places : List Nat) : Nat → List Nat
  | 0 => places
  | n + 1 => rounds round (round places).eraseDups n

/-- Adds the places that one more round reaches, at most so often, until there are no new ones. -/
def saturate (round : List Nat → List Nat) (places : List Nat) : Nat → List Nat
  | 0 => places
  | n + 1 =>
    let new := ((round places).filter (!places.contains ·)).eraseDups
    if new.isEmpty then places else saturate round (places ++ new) n

/-- The places at which a match that begins at one of `places` can end. More rounds than the text
has places reach nothing new: one of them goes nowhere and may as well be left out or made twice. -/
def ends (text : Array Char) : Pattern → List Nat → List Nat
  | empty, places => places
  | oneOf set, places => places.filterMap fun i =>
      match text[i]? with
      | some c => if set.has c then some (i + 1) else none
      | none => none
  | look demand, places => places.filter fun i => Look.holds text i demand
  | group body, places => ends text body places
  | sequence first second, places => ends text second (ends text first places)
  | either first second, places => (ends text first places ++ ends text second places).eraseDups
  | repeated body least most, places =>
    let enough := text.size + 1
    let reached := rounds (ends text body) places (min least enough)
    saturate (ends text body) reached (min ((most.map (· - least)).getD enough) enough)

/-- Whether the pattern occurs anywhere in the text. -/
def occursIn (p : Pattern) (text : String) : Bool :=
  let cs := text.toList.toArray
  !(p.ends cs (List.range (cs.size + 1))).isEmpty

/-! ## What a pattern costs -/

/-- Whether a pattern that is matched at all demands something of words in all scripts. -/
def knowsScripts : Pattern → Bool
  | empty | oneOf _ => false
  | look (.word _ allScripts) => allScripts
  | look _ => false
  | group body => body.knowsScripts
  | sequence first second | either first second => first.knowsScripts || second.knowsScripts
  | repeated body _ most => most != some 0 && body.knowsScripts

/-- Whether the empty text matches, wherever it is looked for. -/
def isNullable : Pattern → Bool
  | empty | look _ => true
  | oneOf _ => false
  | group body => body.isNullable
  | sequence first second => first.isNullable && second.isNullable
  | either first second => first.isNullable || second.isNullable
  | repeated body least most => least == 0 || most == some 0 || body.isNullable

/-- The bytes of one state of a machine, of one of its steps and of one of its forks. -/
def stateSize : Nat := 32

def stepSize : Nat := 8

def forkSize : Nat := 4

/-- What a set of characters beyond ASCII takes, roughly: its bytes are read one by one. -/
def wideSetSize : Nat := 12 * stateSize + 24 * stepSize

/-- The bytes that a machine for a pattern takes in which repetitions are written out. -/
def size : Pattern → Nat
  | empty | look _ => stateSize
  | oneOf set => match set.only? with
    | some c => c.utf8Size * stateSize
    | none =>
      if set.isEmpty then stateSize
      else if set.isAscii then 2 * stateSize + stepSize * set.ranges.length
      else wideSetSize
  | group body => 2 * stateSize + body.size
  | sequence first second => first.size + second.size
  | either first second => first.size + second.size + 2 * stateSize + 2 * forkSize
  | repeated body least most =>
    let one := body.size
    let fork := stateSize + 2 * forkSize
    match least, most with
    | 0, some 0 => stateSize
    | 0, some 1 => one + fork + stateSize
    | least, some most => most * one + (most - least) * fork + (if least < most then stateSize else 0)
    | 0, none => one + fork + (if body.isNullable then fork + stateSize else 0)
    | least, none => least * one + fork

end Pattern
end PipeShell.Text
