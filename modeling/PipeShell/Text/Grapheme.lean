import PipeShell.Text.Property

/-! # Extended grapheme clusters

What a user takes for one character can be several code points. The rules of the Unicode standard
say between which code points a cluster ends; erasing one character erases a cluster. -/

namespace PipeShell.Text.Grapheme

/-- The classes that the rules speak of. -/
inductive Kind where
  | lineFeed | carriageReturn | control | extend | joiner | nonJoiner | regional | prepend | spacing
  | leading | vowel | trailing | syllable | closedSyllable | pictograph | linker | consonant | other
  deriving DecidableEq, Repr

/-- The class of a character. Precomposed Hangul syllables come in blocks of 28, of which the
first has no trailing consonant. -/
def kind (c : Char) : Kind :=
  let n := c.toNat
  if n == 0xA then .lineFeed
  else if n == 0xD then .carriageReturn
  else if 0x20 ≤ n && n < 0x7F then .other
  else if n == 0x200D then .joiner
  else if controlRanges.has c then .control
  else if n == 0x200C then .nonJoiner
  else if conjunctLinkerRanges.has c then .linker
  else if isGraphemeExtend c || (0x1F3FB ≤ n && n ≤ 0x1F3FF) then .extend
  else if spacingMarkRanges.has c then .spacing
  else if prependRanges.has c then .prepend
  else if 0x1F1E6 ≤ n && n ≤ 0x1F1FF then .regional
  else if (0x1100 ≤ n && n ≤ 0x115F) || (0xA960 ≤ n && n ≤ 0xA97C) then .leading
  else if (0x1160 ≤ n && n ≤ 0x11A7) || (0xD7B0 ≤ n && n ≤ 0xD7C6) || n == 0x16D63 ||
    (0x16D67 ≤ n && n ≤ 0x16D6A) then .vowel
  else if (0x11A8 ≤ n && n ≤ 0x11FF) || (0xD7CB ≤ n && n ≤ 0xD7FB) then .trailing
  else if 0xAC00 ≤ n && n ≤ 0xD7A3 then
    if (n - 0xAC00) % 28 == 0 then .syllable else .closedSyllable
  else if conjunctConsonantRanges.has c then .consonant
  else if pictographRanges.has c then .pictograph
  else .other

/-- Whether the class joins what is before it without being a letter of its own. -/
def Kind.isMark : Kind → Bool
  | extend | nonJoiner | linker => true
  | _ => false

/-- How far a text has come towards a conjunct. -/
inductive Conjunct where
  | none
  /-- It ends in a consonant with marks. -/
  | begun
  /-- One of these marks is a linker. -/
  | linked
  deriving DecidableEq, Repr

/-- Marks and joiners keep what has been begun; a non-joiner ends it. -/
def Conjunct.next : Conjunct → Kind → Conjunct
  | _, .consonant => begun
  | none, .linker => none
  | _, .linker => linked
  | conjunct, .extend | conjunct, .joiner => conjunct
  | _, _ => none

/-- What the rules must know of the text before a place. -/
structure Context where
  last : Kind
  /-- The text ends in a pictograph with marks. -/
  pictograph : Bool
  /-- The text ends in a pictograph with marks and a joiner. -/
  joined : Bool
  /-- An odd number of regional indicators ends the text. -/
  oddRegional : Bool
  conjunct : Conjunct
  deriving Repr

def Context.start (k : Kind) : Context :=
  ⟨k, k == .pictograph, false, k == .regional, Conjunct.none.next k⟩

/-- The context once `k` has followed. -/
def Context.next (context : Context) (k : Kind) : Context where
  last := k
  pictograph := k == .pictograph || (k.isMark && context.pictograph)
  joined := k == .joiner && context.pictograph
  oddRegional := k == .regional && !context.oddRegional
  conjunct := context.conjunct.next k

/-- Whether the cluster goes on with a character of class `k`. -/
def Context.joins (context : Context) (k : Kind) : Bool :=
  match context.last, k with
  | .carriageReturn, .lineFeed => true
  | .carriageReturn, _ | .lineFeed, _ | .control, _ => false
  | _, .carriageReturn | _, .lineFeed | _, .control => false
  | .leading, .leading | .leading, .vowel | .leading, .syllable | .leading, .closedSyllable => true
  | .syllable, .vowel | .syllable, .trailing | .vowel, .vowel | .vowel, .trailing => true
  | .closedSyllable, .trailing | .trailing, .trailing => true
  | _, .extend | _, .nonJoiner | _, .linker | _, .joiner | _, .spacing => true
  | .prepend, _ => true
  | _, .consonant => context.conjunct == .linked
  | .joiner, .pictograph => context.joined
  | .regional, .regional => context.oddRegional
  | _, _ => false

/-- The clusters of a text of which `cluster`, read so far, is the first. -/
def clustersFrom (context : Context) (cluster : List Char) : List Char → List (List Char)
  | [] => [cluster.reverse]
  | c :: cs =>
    if context.joins (kind c) then clustersFrom (context.next (kind c)) (c :: cluster) cs
    else cluster.reverse :: clustersFrom (.start (kind c)) [c] cs

/-- The clusters of a text, in order. -/
def clusters : List Char → List (List Char)
  | [] => []
  | c :: cs => clustersFrom (.start (kind c)) [c] cs

end PipeShell.Text.Grapheme
