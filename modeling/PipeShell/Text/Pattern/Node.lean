import PipeShell.Text.Pattern
import PipeShell.Text.Pattern.Mistake

/-! # Patterns as they are written

What a written pattern consists of, before it is settled what its parts mean: that depends on flags
which may be set anywhere in front of a part. Each part knows where it stands. -/

namespace PipeShell.Text.Pattern

/-- What a pattern can be told to do otherwise. -/
inductive Flag where
  | caseless | multiLine | dotAll | swapGreed | scripts | returns | spaced
  deriving DecidableEq, Repr

def Flag.ofChar? : Char → Option Flag
  | 'i' => some .caseless
  | 'm' => some .multiLine
  | 's' => some .dotAll
  | 'U' => some .swapGreed
  | 'u' => some .scripts
  | 'R' => some .returns
  | 'x' => some .spaced
  | _ => none

/-- Flags that are set or taken back, in the order in which they are written. -/
abbrev FlagChange := List (Flag × Bool)

/-- A character, and whether it was written as a byte. -/
structure Letter where
  span : Span
  char : Char
  asByte : Bool := false
  deriving Repr

/-- The classes that have a letter of their own. -/
inductive LetterClass where
  | digit | space | word
  deriving DecidableEq, Repr

/-- What a place is asked for. -/
inductive Assertion where
  | lineStart | lineStop | textStart | textStop
  | word (edge : WordEdge)
  deriving DecidableEq, Repr

/-- What two sets are made into. -/
inductive SetOperator where
  | inter | diff | symmDiff
  deriving DecidableEq, Repr

/-- What stands between brackets. -/
inductive Members where
  | nothing (span : Span)
  | letter (l : Letter)
  | range (span : Span) (first last : Letter)
  | named (span : Span) (negated : Bool) (set : CharSet)
  | property (span : Span) (name : String)
  | letterClass (span : Span) (negated : Bool) (which : LetterClass)
  | bracketed (span : Span) (negated : Bool) (members : Members)
  /-- Several members; the chain of them is made of `also`. -/
  | union (span : Span) (members : Members)
  | also (first rest : Members)
  | combined (span : Span) (operator : SetOperator) (left right : Members)
  deriving Repr, Inhabited

namespace Members

def span : Members → Span
  | nothing s | range s .. | named s .. | property s _ | letterClass s .. | bracketed s .. | union s _
  | combined s .. => s
  | letter l => l.span
  | also first _ => first.span

end Members

/-- A part of a written pattern. -/
inductive Node where
  | empty
  /-- Flags for what follows in the same group. -/
  | flags (change : FlagChange)
  | letter (l : Letter)
  | any (span : Span)
  | assertion (span : Span) (a : Assertion)
  | property (span : Span) (name : String)
  | letterClass (span : Span) (negated : Bool) (which : LetterClass)
  | bracketed (span : Span) (negated : Bool) (members : Members)
  | repeated (span : Span) (body : Node) (least : Nat) (most : Option Nat)
  | group (span : Span) (change : FlagChange) (body : Node)
  /-- Parts one after the other; the chain of them is made of `next`. -/
  | sequence (span : Span) (parts : Node)
  | alternatives (span : Span) (parts : Node)
  | next (first rest : Node)
  deriving Repr, Inhabited

namespace Node

/-- The chain of several parts. -/
def chain : List Node → Node
  | [] => empty
  | [n] => n
  | n :: ns => next n (chain ns)

def span? : Node → Option Span
  | empty | flags _ | next .. => none
  | letter l => some l.span
  | any s | assertion s _ | property s _ | letterClass s .. | bracketed s .. | repeated s .. | group s ..
  | sequence s _ | alternatives s _ => some s

end Node

/-! ## Depth -/

/-- How deep the parts of a pattern may be nested. -/
def maxDepth : Nat := 250

/-- The first part that is nested too deep, seen from a depth. -/
def Members.tooDeep? (depth : Nat) : Members → Option Span
  | nothing _ | letter _ | range .. | named .. | property .. | letterClass .. => none
  | bracketed s _ members | union s members =>
    if maxDepth ≤ depth then some s else members.tooDeep? (depth + 1)
  | also first rest => (first.tooDeep? depth).or (rest.tooDeep? depth)
  | combined s _ left right =>
    if maxDepth ≤ depth then some s
    else (left.tooDeep? (depth + 1)).or (right.tooDeep? (depth + 1))

/-- The first part that is nested too deep, seen from a depth. -/
def Node.tooDeep? (depth : Nat) : Node → Option Span
  | empty | flags _ | letter _ | any _ | assertion .. | property .. | letterClass .. => none
  | bracketed s _ members => if maxDepth ≤ depth then some s else members.tooDeep? (depth + 1)
  | repeated s body _ _ | group s _ body | sequence s body | alternatives s body =>
    if maxDepth ≤ depth then some s else body.tooDeep? (depth + 1)
  | next first rest => (first.tooDeep? depth).or (rest.tooDeep? depth)

end PipeShell.Text.Pattern
