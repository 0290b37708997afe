import PipeShell.Host.Number.Conversion
import PipeShell.Host.Tool.Amount
import PipeShell.Host.Tool.Concatenate
import PipeShell.Host.Tool.Regular

/-! # The tool `nl`

Lines are numbered, page by page. A page has a header, a body and a footer, which lines of their own
begin. -/

namespace PipeShell.Host.Tool

namespace Numbering

/-- Which lines of a section are numbered. -/
inductive Style where
  | all | filled | none
  | showing (r : Regular)
  deriving Inhabited

inductive Section where
  | header | body | footer
  deriving DecidableEq, Repr

inductive Justification where
  | left | right | zeros
  deriving DecidableEq, Repr

structure Wanted where
  header : Style := .none
  body : Style := .filled
  footer : Style := .none
  /-- The two characters that make the lines which begin sections. -/
  mark : String := "\\:"
  step : Int := 1
  first : Int := 1
  /-- Of so many empty lines in a row the last is numbered, if all lines are. -/
  joined : Nat := 1
  justification : Justification := .right
  separator : String := "\t"
  width : Nat := 6
  /-- Whether a new page begins with the first number. -/
  restarts : Bool := true

structure State where
  part : Section := .body
  number : Int
  blanks : Nat := 0

def Wanted.style (w : Wanted) : Section → Style
  | .header => w.header
  | .body => w.body
  | .footer => w.footer

/-- The section that a line begins. -/
def sectionOf? (w : Wanted) (line : String) : Option Section :=
  if w.mark.isEmpty then none
  else if line == w.mark ++ w.mark ++ w.mark then some .header
  else if line == w.mark ++ w.mark then some .body
  else if line == w.mark then some .footer
  else none

def shownNumber (w : Wanted) (n : Int) : String :=
  let c : Number.Conversion := {
    left := w.justification = .left, zeros := w.justification = .zeros, width := w.width }
  c.signed n ++ w.separator

def step (w : Wanted) (s : State) (out line : ByteArray) (_ : Bool) : State × ByteArray :=
  let text := ByteText.ofBytes line
  match sectionOf? w text with
  | some part =>
    ({ s with part, number := if w.restarts then w.first else s.number }, out.push 10)
  | none =>
    let (isNumbered, blanks) : Bool × Nat := match w.style s.part with
      | .all =>
        if w.joined ≤ 1 || !line.isEmpty then (true, 0)
        else if s.blanks + 1 == w.joined then (true, 0)
        else (false, s.blanks + 1)
      | .filled => (!line.isEmpty, s.blanks)
      | .none => (false, s.blanks)
      | .showing r => (r.occursIn text.toList.toArray, s.blanks)
    let before :=
      if isNumbered then shownNumber w s.number
      else String.ofList (List.replicate (w.width + w.separator.length) ' ')
    ({ s with number := if isNumbered then s.number + w.step else s.number, blanks },
      (out ++ ByteText.toBytes before ++ line).push 10)

def styleOf? (text : String) : Except String (Option Style) :=
  match text.toList with
  | 'a' :: _ => .ok (some .all)
  | 't' :: _ => .ok (some .filled)
  | 'n' :: _ => .ok (some .none)
  | 'p' :: cs => match Regular.ofString? .basic (String.ofList cs) with
    | .ok (r, _) => .ok (some (.showing r))
    | .error e => .error e.message
  | _ => .ok none

def style (what text : String) : Tool Style :=
  match styleOf? text with
  | .ok (some s) => return s
  | .ok none => misuse 1 ("invalid " ++ what ++ " numbering style: " ++ quote text)
  | .error e => fail 1 e

def largest : Int := 2 ^ 63 - 1

def addOption (w : Wanted) (given : Given) : Tool Wanted := do
  let text := given.2.getD ""
  match given.1 with
  | "h" => return { w with header := ← style "header" text }
  | "b" => return { w with body := ← style "body" text }
  | "f" => return { w with footer := ← style "footer" text }
  | "v" =>
    return { w with
      first := ← amountWithin true "" (-largest - 1) largest "invalid starting line number" text }
  | "i" =>
    return { w with
      step := ← amountWithin true "" (-largest - 1) largest "invalid line number increment" text }
  | "l" =>
    let n ← amountWithin true "" 1 largest "invalid line number of blank lines" text
    return { w with joined := n.toNat }
  | "w" =>
    let n ← amountWithin true "" 1 (2 ^ 31 - 1) "invalid line number field width" text
    return { w with width := n.toNat }
  | "s" => return { w with separator := text }
  | "p" => return { w with restarts := false }
  | "d" =>
    return { w with mark := if text.length == 1 then text ++ ":" else text }
  | _ => match text with
    | "ln" => return { w with justification := .left }
    | "rn" => return { w with justification := .right }
    | "rz" => return { w with justification := .zeros }
    | _ => misuse 1 ("invalid line numbering format: " ++ quote text)

end Numbering

open PipeShell.Host.Tool.Numbering in
def nl (call : Call) : Tool Nat := do
  let (p, w) ← parseInto [.letter 'h' "header-numbering" .required, .letter 'b' "body-numbering" .required,
    .letter 'f' "footer-numbering" .required, .letter 'v' "starting-line-number" .required,
    .letter 'i' "line-increment" .required, .letter 'p' "no-renumber" .none,
    .letter 'l' "join-blank-lines" .required, .letter 's' "number-separator" .required,
    .letter 'w' "number-width" .required, .letter 'n' "number-format" .required,
    .letter 'd' "section-delimiter" .required] false 1 call.operands {} addOption
  let mut s : Numbering.State := { number := w.first }
  let mut code := 0
  for name in orInput p.operands do
    match ← openOperand name with
    | .error e =>
      warnOf (quoteName name) e
      code := 1
    | .ok fd =>
      let (after, failure) ← forLines fd 10 (step w) s
      s := after
      closeOperand fd
      if let some e := failure then
        warnOf (quoteName name) e
        code := 1
  return code

end PipeShell.Host.Tool
