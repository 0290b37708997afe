import PipeShell.Text.Pattern.Reader

/-! # What written patterns mean

The flags that hold at a part of a written pattern decide what it matches, and whether it can be
matched at all: letters and words of all scripts are not known here. Main definition:
`Pattern.ofString`. -/

namespace PipeShell.Text

namespace Pattern

/-- The flags that hold at a part. -/
structure Flags where
  caseless : Bool := false
  multiLine : Bool := false
  dotAll : Bool := false
  scripts : Bool := true
  returns : Bool := false
  deriving DecidableEq, Repr

def Flags.set (f : Flags) : Flag × Bool → Flags
  | (.caseless, value) => { f with caseless := value }
  | (.multiLine, value) => { f with multiLine := value }
  | (.dotAll, value) => { f with dotAll := value }
  | (.scripts, value) => { f with scripts := value }
  | (.returns, value) => { f with returns := value }
  | (.swapGreed, _) | (.spaced, _) => f

def Flags.change (f : Flags) (change : FlagChange) : Flags := change.foldl Flags.set f

/-! ## Sets -/

def LetterClass.set : LetterClass → CharSet
  | digit => .range '0' '9'
  | space => .ofRanges [(9, 13), (32, 32)]
  | word => .ofRanges [(48, 57), (65, 90), (95, 95), (97, 122)]

/-- A property's name without what does not matter in it. -/
def plainName (name : String) : String :=
  let cs := (name.toList.filter fun c => !(c == ' ' || c == '_' || c == '-')).map Char.toLower
  let plain := match name.toList.map Char.toLower, cs with
    | 'i' :: 's' :: _, 'i' :: 's' :: rest => if rest == ['c'] then cs else rest
    | _, _ => cs
  String.ofList plain

/-- No property is known. Three names could be those of a property's value. -/
def unknownProperty (f : Flags) (span : Span) (name : String) : Mistake :=
  let valued := name.toList.any fun c => c == '=' || c == ':'
  let cause : Cause :=
    if !f.scripts then .scriptsNotAllowed
    else if !valued && ["cf", "sc", "lc"].contains (plainName name) then .propertyValueUnknown
    else .propertyUnknown
  { cause, span }

/-- Letters of both cases, if the case does not matter. -/
def folded (f : Flags) (span : Span) (s : CharSet) : Except Mistake CharSet :=
  if !f.caseless || s.isEmpty then pure s
  else if f.scripts then throw { cause := .scriptCase, span }
  else pure s.bothCases

/-- The set or its complement. Without scripts there is no text beyond ASCII. -/
def settled (f : Flags) (span : Span) (negated : Bool) (s : CharSet) : Except Mistake CharSet := do
  let s ← folded f span s
  let s := if negated then s.complement else s
  if !f.scripts && !s.isAscii then throw { cause := .noText, span }
  return s

/-- A character of a set. -/
def letterIn (f : Flags) (l : Letter) : Except Mistake Char :=
  if f.scripts || l.char.toNat < 128 then pure l.char
  else throw { cause := if l.asByte then .noText else .scriptsNotAllowed, span := l.span }

def classSet (f : Flags) (span : Span) (negated : Bool) (which : LetterClass) :
    Except Mistake CharSet :=
  if f.scripts then throw { cause := .scriptClass, span }
  else if negated then throw { cause := .noText, span }
  else pure which.set

/-- The set that members make. -/
def Members.set (f : Flags) : Members → Except Mistake CharSet
  | nothing _ => pure .empty
  | letter l => return .single (← letterIn f l)
  | range _ first last => do
    let first ← letterIn f first
    let last ← letterIn f last
    return .range first last
  | named span negated set => settled f span negated set
  | property span name => throw (unknownProperty f span name)
  | letterClass span negated which => classSet f span negated which
  | bracketed span negated members => do settled f span negated (← members.set f)
  | union _ members => members.set f
  | also first rest => do
    let s ← first.set f
    return s.union (← rest.set f)
  | combined _ operator left right => do
    let s ← left.set f
    let t ← right.set f
    let t ← folded f right.span t
    let s ← folded f left.span s
    return match operator with
      | .inter => s.inter t
      | .diff => s.diff t
      | .symmDiff => s.symmDiff t

/-! ## Parts -/

/-- What a dot stands for. -/
def anySet (f : Flags) : CharSet :=
  if f.dotAll then CharSet.empty.complement
  else if f.returns then (CharSet.ofRanges [(10, 10), (13, 13)]).complement
  else (CharSet.single '\n').complement

def Assertion.look (f : Flags) : Assertion → Look
  | lineStart => if f.multiLine then .lineStart f.returns else .start
  | lineStop => if f.multiLine then .lineStop f.returns else .stop
  | textStart => .start
  | textStop => .stop
  | word edge => .word edge f.scripts

/-- A single character. -/
def letterSet (f : Flags) (l : Letter) : Except Mistake CharSet := do
  if !f.scripts && l.asByte && 128 ≤ l.char.toNat then throw { cause := .noText, span := l.span }
  if !f.caseless then return .single l.char
  if f.scripts then throw { cause := .scriptCase, span := l.span }
  return (CharSet.single l.char).bothCases

/-- The pattern that a part stands for, and the flags behind it. -/
def Node.meaning (f : Flags) : Node → Except Mistake (Pattern × Flags)
  | empty => return (.empty, f)
  | flags change => return (.empty, f.change change)
  | letter l => return (.oneOf (← letterSet f l), f)
  | any span =>
    if f.scripts then return (.oneOf (anySet f), f) else throw { cause := .noText, span }
  | assertion _ a => return (.look (a.look f), f)
  | property span name => throw (unknownProperty f span name)
  | letterClass span negated which => return (.oneOf (← classSet f span negated which), f)
  | bracketed span negated members => do
    return (.oneOf (← settled f span negated (← members.set f)), f)
  | repeated _ body least most => do
    let (p, f) ← body.meaning f
    return (.repeated p least most, f)
  | group _ change body => do
    let (p, _) ← body.meaning (f.change change)
    return (.group p, f)
  | sequence _ parts => parts.meaning f
  | alternatives _ parts => branches f parts
  | next first rest => do
    let (p, f) ← first.meaning f
    let (q, f) ← rest.meaning f
    return (.sequence p q, f)
where
  /-- Alternatives: flags of one hold in those behind it. -/
  branches (f : Flags) : Node → Except Mistake (Pattern × Flags)
    | next first rest => do
      let (p, f) ← first.meaning f
      let (q, f) ← branches f rest
      return (.either p q, f)
    | last => last.meaning f

/-- Why a text is no pattern that can be searched for. -/
inductive Refusal where
  | mistake (m : Mistake)
  /-- It asks for words in all scripts. -/
  | unbuildable
  | tooBig
  deriving DecidableEq, Repr

/-- The most bytes that a machine for a pattern may take. -/
def maxSize : Nat := 10485760

def Refusal.message (text : String) : Refusal → String
  | mistake m => m.shown text
  | unbuildable => "error building NFA"
  | tooBig => s!"Compiled regex exceeds size limit of {maxSize} bytes."

/-- The pattern that a text writes. -/
def ofString (text : String) : Except Refusal Pattern :=
  match Node.ofString text >>= Node.meaning {} with
  | .error m => .error (.mistake m)
  | .ok (p, _) =>
    if p.knowsScripts then .error .unbuildable
    else if maxSize < p.size then .error .tooBig
    else .ok p

end Pattern
end PipeShell.Text
