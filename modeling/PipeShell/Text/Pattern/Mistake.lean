/-! # Mistakes in patterns

What can be wrong with a written pattern, where, and how that is shown: the pattern line by line, and
below each line carets under what the mistake is about. -/

namespace PipeShell.Text.Pattern

/-- A place in a written pattern. Lines and columns count from one. -/
structure Position where
  offset : Nat := 0
  line : Nat := 1
  column : Nat := 1
  deriving DecidableEq, Repr, Inhabited

/-- The position behind a character. -/
def Position.after (p : Position) (c : Char) : Position :=
  if c == '\n' then ⟨p.offset + 1, p.line + 1, 1⟩ else ⟨p.offset + 1, p.line, p.column + 1⟩

structure Span where
  start : Position
  stop : Position
  deriving DecidableEq, Repr, Inhabited

def Span.isOneLine (s : Span) : Bool := s.start.line == s.stop.line

inductive Cause where
  | classEscape | classRange | classRangeLiteral | classUnclosed
  | decimalInvalid
  | hexEmpty | hexNoScalar | hexDigit
  | escapeUnfinished | escapeUnknown
  | flagDangling | flagTwice | flagNegatedTwice | flagUnfinished | flagUnknown
  | groupNameTwice | groupNameEmpty | groupNameInvalid | groupNameUnfinished
  | groupUnclosed | groupUnopened
  | nestedTooDeep (limit : Nat)
  | countOrder | countEmpty | countUnclosed
  | repetitionMissing
  | wordEdgeUnclosed | wordEdgeUnknown | wordEdgeUnfinished
  | propertyInvalid
  | backreference | lookAround
  /-- These come from the meaning of a pattern that is written rightly. -/
  | scriptsNotAllowed | noText
  | propertyUnknown | propertyValueUnknown | scriptClass | scriptCase
  deriving DecidableEq, Repr

def Cause.message : Cause → String
  | classEscape => "invalid escape sequence found in character class"
  | classRange => "invalid character class range, the start must be <= the end"
  | classRangeLiteral => "invalid range boundary, must be a literal"
  | classUnclosed => "unclosed character class"
  | decimalInvalid => "decimal literal invalid"
  | hexEmpty => "hexadecimal literal empty"
  | hexNoScalar => "hexadecimal literal is not a Unicode scalar value"
  | hexDigit => "invalid hexadecimal digit"
  | escapeUnfinished => "incomplete escape sequence, reached end of pattern prematurely"
  | escapeUnknown => "unrecognized escape sequence"
  | flagDangling => "dangling flag negation operator"
  | flagTwice => "duplicate flag"
  | flagNegatedTwice => "flag negation operator repeated"
  | flagUnfinished => "expected flag but got end of regex"
  | flagUnknown => "unrecognized flag"
  | groupNameTwice => "duplicate capture group name"
  | groupNameEmpty => "empty capture group name"
  | groupNameInvalid => "invalid capture group character"
  | groupNameUnfinished => "unclosed capture group name"
  | groupUnclosed => "unclosed group"
  | groupUnopened => "unopened group"
  | nestedTooDeep limit => s!"exceed the maximum number of nested parentheses/brackets ({limit})"
  | countOrder => "invalid repetition count range, the start must be <= the end"
  | countEmpty => "repetition quantifier expects a valid decimal"
  | countUnclosed => "unclosed counted repetition"
  | repetitionMissing => "repetition operator missing expression"
  | wordEdgeUnclosed =>
    "special word boundary assertion is either unclosed or contains an invalid character"
  | wordEdgeUnknown =>
    "unrecognized special word boundary assertion, valid choices are: start, end, start-half or end-half"
  | wordEdgeUnfinished =>
    "found either the beginning of a special word boundary or a bounded repetition on a \\b with an opening brace, but no closing brace"
  | propertyInvalid => "invalid Unicode character class"
  | backreference => "backreferences are not supported"
  | lookAround => "look-around, including look-ahead and look-behind, is not supported"
  | scriptsNotAllowed => "Unicode not allowed here"
  | noText => "pattern can match invalid UTF-8"
  | propertyUnknown => "Unicode property not found"
  | propertyValueUnknown => "Unicode property value not found"
  | scriptClass =>
    "Unicode-aware Perl class not found (make sure the unicode-perl feature is enabled)"
  | scriptCase =>
    "Unicode-aware case insensitivity matching is not available (make sure the unicode-case feature is enabled)"

/-- What is wrong, where, and what else has to do with it. -/
structure Mistake where
  cause : Cause
  span : Span
  other : Option Span := none
  deriving DecidableEq, Repr

namespace Mistake

/-- The lines of a pattern. A carriage return before a line break belongs to it. -/
def linesOf (text : String) : List String :=
  let lines := text.splitOn "\n"
  let lines := if lines.getLast? == some "" then lines.dropLast else lines
  let ended := lines.length - (if text.endsWith "\n" then 0 else 1)
  lines.zipIdx.map fun (line, i) =>
    if i < ended && line.endsWith "\r" then String.ofList line.toList.dropLast else line

/-- Carets under spans of one line, from left to right. -/
def carets (spans : List Span) : String :=
  let sorted := spans.mergeSort fun a b => a.start.offset ≤ b.start.offset
  (sorted.foldl
    (fun ((text, column) : String × Nat) s =>
      let gap := s.start.column - 1 - column
      let width := max 1 (s.stop.column - s.start.column)
      (text ++ String.ofList (List.replicate gap ' ' ++ List.replicate width '^'), column + gap + width))
    ("", 0)).1

/-- The mistake as it is shown. The lines of a pattern that has several are numbered. -/
def shown (m : Mistake) (text : String) : String :=
  let lines := linesOf text
  let count := lines.length + (if text.endsWith "\n" then 1 else 0)
  let numberWidth := if count ≤ 1 then 0 else (toString count).length
  let spans := m.span :: m.other.toList
  let row (line : String) (i : Nat) : String :=
    let number := toString (i + 1)
    let front := if numberWidth == 0 then "    "
      else String.ofList (List.replicate (numberWidth - number.length) ' ') ++ number ++ ": "
    let below := spans.filter fun s => s.isOneLine && s.start.line == i + 1
    let notes := if below.isEmpty then ""
      else String.ofList (List.replicate front.length ' ') ++ carets below ++ "\n"
    front ++ line ++ "\n" ++ notes
  let rows := String.join (lines.zipIdx.map fun (line, i) => row line i)
  let head := "regex parse error:\n"
  let tail := "error: " ++ m.cause.message
  if text.toList.contains '\n' then
    let divider := String.ofList (List.replicate 79 '~') ++ "\n"
    let long := (spans.filter (!·.isOneLine)).mergeSort fun a b => a.start.offset ≤ b.start.offset
    let notes := long.map fun s =>
      s!"on line {s.start.line} (column {s.start.column}) through line {s.stop.line} (column {s.stop.column - 1})"
    let notes := if notes.isEmpty then "" else "\n".intercalate notes ++ "\n"
    head ++ divider ++ rows ++ divider ++ notes ++ tail
  else head ++ rows ++ tail

end Mistake
end PipeShell.Text.Pattern
