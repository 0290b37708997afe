import PipeShell.Host.Number.Factors
import PipeShell.Host.Tool.Options
import PipeShell.Host.Tool.Regular

/-! # Expressions

The words of an expression are numbers, texts and operators. A number is a text that looks like
one. -/

namespace PipeShell.Host.Tool
namespace Expression

inductive Value where
  | number (n : Int)
  | text (s : String)

namespace Value

def toText : Value → String
  | number n => toString n
  | text s => s

/-- The number that a text looks like. -/
def number? (s : String) : Option Int :=
  match s.toList with
  | '-' :: cs => if cs.isEmpty || !cs.all Char.isDigit then none else some (-(((String.ofList cs).toNat?.getD 0 : Nat) : Int))
  | cs => if cs.isEmpty || !cs.all Char.isDigit then none else some (((String.ofList cs).toNat?.getD 0 : Nat) : Int)

def toNumber? : Value → Option Int
  | number n => some n
  | text s => number? s

/-- Nothing and zero count as false. -/
def isNull : Value → Bool
  | number n => n == 0
  | text s => s.isEmpty || match s.toList with
    | '-' :: cs => !cs.isEmpty && cs.all (· == '0')
    | cs => cs.all (· == '0')

end Value

/-- The words that are left and the one before them. -/
structure State where
  rest : List String
  before : String := ""

abbrev Reading := StateT State Tool

def refuse {α : Type} (text : Message) : Tool α := fail 2 text

/-- Takes the next word. -/
def take : Reading String := do
  match (← get).rest with
  | [] => refuse ("syntax error: missing argument after " ++ quote (← get).before)
  | word :: rest =>
    set { rest, before := word : State }
    return word

/-- Takes the next word if it is one of these. -/
def takeOne? (words : List String) : Reading (Option String) := do
  match (← get).rest with
  | word :: rest =>
    if words.contains word then
      set { rest, before := word : State }
      return some word
    return none
  | [] => return none

/-- How an expression matches at the start of a text: its first group, or how much it matches. -/
def matching (text expression : String) : Tool Value := do
  match Regular.ofString? .basic expression with
  | .error mistake => refuse mistake.message
  | .ok (r, groups) =>
    let cs := text.toList.toArray
    match r.matchAt? cs 0 with
    | none => return if groups > 0 then .text "" else .number 0
    | some place =>
      if groups == 0 then return .number place.position
      match place.groups.lookup 1 with
      | some (first, last) => return .text (String.ofList (cs.extract first last).toList)
      | none => return .text ""

/-- The first position at which a text has one of these characters, counted from one; else zero. -/
def positionOf (text characters : String) : Nat :=
  match text.toList.findIdx? characters.toList.contains with
  | some i => i + 1
  | none => 0

def substring (text : String) (start length : Int) : String :=
  if start ≤ 0 || length ≤ 0 then ""
  else String.ofList ((text.toList.drop (start.toNat - 1)).take length.toNat)

def arithmetic (operator : String) (a b : Value) : Tool Value := do
  match a.toNumber?, b.toNumber? with
  | some m, some n =>
    if (operator == "/" || operator == "%") && n == 0 then refuse "division by zero"
    return .number (match operator with
      | "+" => m + n
      | "-" => m - n
      | "*" => m * n
      | "/" => Int.tdiv m n
      | _ => Int.tmod m n)
  | _, _ => refuse "non-integer argument"

def comparison (operator : String) (a b : Value) : Value :=
  let order : Ordering := match Value.number? a.toText, Value.number? b.toText with
    | some m, some n => compare m n
    | _, _ => compare a.toText b.toText
  let holds : Bool := match operator with
    | "<" => order == .lt
    | "<=" => order != .gt
    | ">" => order == .gt
    | ">=" => order != .lt
    | "!=" => order != .eq
    | _ => order == .eq
  .number (if holds then 1 else 0)

/-- How strongly operators bind, those that bind least first. -/
inductive Level where
  | either | both | comparison | sum | product | matching | operation | primary

mutual

/-- Reads an expression and gives its value. What is not `needed` is read and not computed. The
number bounds how deep expressions lie in one another. -/
def value (level : Level) (needed : Bool) (fuel : Nat) : Reading Value := do
  match fuel with
  | 0 => return .number 0
  | fuel + 1 =>
    match level with
    | .either => do
      let first ← value .both needed fuel
      operators .either first needed fuel
    | .both => do
      let first ← value .comparison needed fuel
      operators .both first needed fuel
    | .comparison => do
      let first ← value .sum needed fuel
      operators .comparison first needed fuel
    | .sum => do
      let first ← value .product needed fuel
      operators .sum first needed fuel
    | .product => do
      let first ← value .matching needed fuel
      operators .product first needed fuel
    | .matching => do
      let first ← value .operation needed fuel
      operators .matching first needed fuel
    | .operation => do
      match ← takeOne? ["+", "length", "match", "index", "substr"] with
      | some "+" => return .text (← take)
      | some "length" => return .number (← value .operation needed fuel).toText.length
      | some "match" => do
        let text ← value .operation needed fuel
        let expression ← value .operation needed fuel
        if needed then matching text.toText expression.toText else return text
      | some "index" => do
        let text ← value .operation needed fuel
        let characters ← value .operation needed fuel
        return .number (positionOf text.toText characters.toText)
      | some _ => do
        let text ← value .operation needed fuel
        let start ← value .operation needed fuel
        let length ← value .operation needed fuel
        match start.toNumber?, length.toNumber? with
        | some i, some n => return .text (substring text.toText i n)
        | _, _ => return .text ""
      | none => value .primary needed fuel
    | .primary => do
      let word ← take
      if word == "(" then
        let inner ← value .either needed fuel
        match (← get).rest with
        | [] => refuse ("syntax error: expecting ')' after " ++ quote (← get).before)
        | next :: _ =>
          if next != ")" then refuse ("syntax error: expecting ')' instead of " ++ quote next)
          let _ ← take
          return inner
      else if word == ")" then refuse "syntax error: unexpected ')'"
      else return .text word

/-- Goes on with the operators of a level as long as there are any. -/
def operators (level : Level) (first : Value) (needed : Bool) (fuel : Nat) : Reading Value := do
  match fuel with
  | 0 => return first
  | fuel + 1 =>
    match level with
    | .either => do
      match ← takeOne? ["|"] with
      | none => return first
      | some _ =>
        let second ← value .both (needed && first.isNull) fuel
        let both := if !first.isNull then first else if second.isNull then .number 0 else second
        operators level both needed fuel
    | .both => do
      match ← takeOne? ["&"] with
      | none => return first
      | some _ =>
        let second ← value .comparison (needed && !first.isNull) fuel
        operators level (if first.isNull || second.isNull then .number 0 else first) needed fuel
    | .comparison => do
      match ← takeOne? ["<", "<=", "=", "==", "!=", ">=", ">"] with
      | none => return first
      | some operator =>
        let second ← value .sum needed fuel
        operators level (if needed then comparison operator first second else first) needed fuel
    | .sum => do
      match ← takeOne? ["+", "-"] with
      | none => return first
      | some operator =>
        let second ← value .product needed fuel
        let result ← if needed then arithmetic operator first second else pure first
        operators level result needed fuel
    | .product => do
      match ← takeOne? ["*", "/", "%"] with
      | none => return first
      | some operator =>
        let second ← value .matching needed fuel
        let result ← if needed then arithmetic operator first second else pure first
        operators level result needed fuel
    | .matching => do
      match ← takeOne? [":"] with
      | none => return first
      | some _ =>
        let second ← value .operation needed fuel
        let result ← if needed then matching first.toText second.toText else pure first
        operators level result needed fuel
    | _ => return first

end

end Expression

open Expression in
def expr (call : Call) : Tool Nat := do
  let words ← match call.operands with
    | ["--help"] | ["--version"] => do
      let _ ← parse [] false 2 call.operands
      pure []
    | "--" :: rest => pure rest
    | rest => pure rest
  if words.isEmpty then missingOperand 2
  let (result, s) ← (value .either true (20 * words.length + 20)).run { rest := words }
  if let extra :: _ := s.rest then refuse ("syntax error: unexpected argument " ++ quote extra)
  print (result.toText ++ "\n")
  return if result.isNull then 1 else 0

def factor (call : Call) : Tool Nat := do
  let p ← parse [] false 1 call.operands
  let words ← if p.operands.isEmpty then do
      let (bytes, _) ← readWhole 0
      pure (((ByteText.ofBytes bytes).map fun c => if c == '\n' || c == '\t' then ' ' else c).splitOn " " |>.filter (· != ""))
    else pure p.operands
  let mut code := 0
  for word in words do
    let cs := word.toList.dropWhile (· == ' ')
    let digits := match cs with
      | '+' :: rest => rest
      | rest => rest
    if digits.isEmpty || !digits.all Char.isDigit then
      warn (quote word ++ " is not a valid positive integer")
      code := 1
    else
      let n := (String.ofList digits).toNat?.getD 0
      print (toString n ++ ":" ++ String.join ((Number.Factors.ofNat n).map fun f => " " ++ toString f) ++ "\n")
  return code

end PipeShell.Host.Tool
