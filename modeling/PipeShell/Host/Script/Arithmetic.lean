import PipeShell.Host.Script.Syntax

/-! # Arithmetic

Expressions over 64-bit integers, with variables, assignments and the usual operators. An
expression is computed while it is read: a part whose value is not needed is read and not
computed. -/

namespace PipeShell.Host.Script.Arithmetic

inductive Token where
  | number (n : Int64)
  | variable (name : String)
  /-- An operator that joins two operands. -/
  | binary (operator : String)
  /-- `=`, or an operator that assigns. -/
  | assign (operator : String)
  | openParen | closeParen | not | complement | question | colon | both | either | stop | bad
  deriving DecidableEq

structure State where
  rest : List Char
  last : Token := .stop
  /-- The variables that have been assigned to. -/
  assigned : List (String × Int64) := []

/-- A computation; a mistake is said as it is shown. -/
abbrev Calc := ExceptT String (StateM State)

/-! ## Numbers -/

def digitValue (c : Char) : Nat :=
  if c.isDigit then c.toNat - '0'.toNat
  else if 'a' ≤ c && c ≤ 'z' then c.toNat - 'a'.toNat + 10
  else if 'A' ≤ c && c ≤ 'Z' then c.toNat - 'A'.toNat + 10
  else 99

/-- The digits of a base at the start, and what follows them. -/
def digits (base : Nat) (cs : List Char) : Nat × List Char :=
  let own := cs.takeWhile (digitValue · < base)
  (own.foldl (fun n c => base * n + digitValue c) 0, cs.drop own.length)

/-- A number without sign: after `0x` in hexadecimal, after `0` in octal. -/
def unsignedAt (cs : List Char) : Option (Nat × List Char) :=
  match cs with
  | '0' :: x :: c :: rest =>
    if (x == 'x' || x == 'X') && digitValue c < 16 then some (digits 16 (c :: rest))
    else some (digits 8 cs)
  | '0' :: _ => some (digits 8 cs)
  | c :: _ => if c.isDigit then some (digits 10 cs) else none
  | [] => none

def largest : Nat := 9223372036854775807

def isSpace (c : Char) : Bool := c == ' ' || (9 ≤ c.toNat && c.toNat ≤ 13)

/-- The value of a text that is all a number, with blanks around it; an empty text is zero. -/
def valueOf? (text : String) : Option Int64 :=
  let cs := text.toList.dropWhile isSpace
  let (negative, digits) := match cs with
    | '-' :: cs => (true, cs)
    | '+' :: cs => (false, cs)
    | cs => (false, cs)
  match unsignedAt digits with
  | none => if text.toList.all isSpace then some 0 else none
  | some (n, rest) =>
    if !rest.all isSpace || largest + (if negative then 1 else 0) < n then none
    else some (if negative then -(Int64.ofNat n) else Int64.ofNat n)

/-! ## Tokens -/

/-- The operators, the longer ones first. -/
def operators : List (String × Token) := [
  ("<<=", .assign "<<"), (">>=", .assign ">>"),
  ("<=", .binary "<="), (">=", .binary ">="), ("==", .binary "=="), ("!=", .binary "!="),
  ("<<", .binary "<<"), (">>", .binary ">>"), ("&&", .both), ("||", .either),
  ("*=", .assign "*"), ("/=", .assign "/"), ("%=", .assign "%"), ("+=", .assign "+"),
  ("-=", .assign "-"), ("&=", .assign "&"), ("^=", .assign "^"), ("|=", .assign "|"),
  ("=", .assign "="), ("<", .binary "<"), (">", .binary ">"), ("*", .binary "*"),
  ("/", .binary "/"), ("%", .binary "%"), ("+", .binary "+"), ("-", .binary "-"),
  ("&", .binary "&"), ("^", .binary "^"), ("|", .binary "|"), ("!", .not), ("~", .complement),
  ("?", .question), (":", .colon), ("(", .openParen), (")", .closeParen)]

/-- The token at the start of a text, and what follows it. -/
def tokenAt (cs : List Char) : Token × List Char :=
  let cs := cs.dropWhile fun c => c == ' ' || c == '\t' || c == '\n'
  match cs with
  | [] => (.stop, [])
  | c :: _ =>
    if isNameStart c then
      let name := cs.takeWhile isNameChar
      (.variable (String.ofList name), cs.drop name.length)
    else match unsignedAt cs with
      | some (n, rest) => (.number (Int64.ofNat (min n largest)), rest)
      | none => match operators.find? fun (text, _) => text.toList.isPrefixOf cs with
        | some (text, token) => (token, cs.drop text.length)
        | none => (.bad, cs)

def next : Calc Token := do
  let s ← get
  let (token, rest) := tokenAt s.rest
  set { s with rest }
  return token

def setLast (token : Token) : Calc Unit := modify fun s => { s with last := token }

/-! ## Operators -/

/-- How strongly an operator binds; less is stronger. -/
def strength : String → Nat
  | "*" | "/" | "%" => 0
  | "+" | "-" => 1
  | "<<" | ">>" => 2
  | "<" | "<=" | ">" | ">=" => 3
  | "==" | "!=" => 4
  | "&" => 5
  | "^" => 6
  | "|" => 7
  | _ => 8

/-- Weaker than every operator. -/
def weakest : Nat := 8

def truth (b : Bool) : Int64 := if b then 1 else 0

def apply (operator : String) (a b : Int64) : Except String Int64 :=
  match operator with
  | "*" => .ok (a * b)
  | "/" => if b = 0 then .error "division by zero" else .ok (a / b)
  | "%" => if b = 0 then .error "division by zero" else .ok (a % b)
  | "+" => .ok (a + b)
  | "-" => .ok (a - b)
  | "<<" => .ok (a <<< b)
  | ">>" => .ok (a >>> b)
  | "<" => .ok (truth (a < b))
  | "<=" => .ok (truth (a ≤ b))
  | ">" => .ok (truth (b < a))
  | ">=" => .ok (truth (b ≤ a))
  | "==" => .ok (truth (a == b))
  | "!=" => .ok (truth (a != b))
  | "&" => .ok (a &&& b)
  | "^" => .ok (a ^^^ b)
  | _ => .ok (a ||| b)

section

/-- The expression as it is shown in a mistake. -/
def mistake {α : Type} (text what : String) : Calc α :=
  throw ("arithmetic expression: " ++ what ++ ": \"" ++ text ++ "\"")

-- The whole expression, and the variables' values before it.
variable (text : String) (lookup : String → Option String)

def variableValue (name : String) : Calc Int64 := do
  match (← get).assigned.lookup name with
  | some n => return n
  | none =>
    let value := (lookup name).getD ""
    match valueOf? value with
    | some n => return n
    | none => throw ("Illegal number: " ++ value)

def applied (operator : String) (a b : Int64) : Calc Int64 :=
  match apply operator a b with
  | .ok n => pure n
  | .error e => mistake text e

mutual

/-- An operand that begins with `token`. `dry` parts are only read. -/
def operand (dry : Bool) : Nat → Token → Calc Int64
  | 0, _ => mistake text "expecting primary"
  | fuel + 1, token => do
    match token with
    | .openParen =>
      let n ← assignment dry fuel (← next)
      if (← get).last ≠ .closeParen then mistake text "expecting ')'"
      setLast (← next)
      return n
    | .number n =>
      setLast (← next)
      return n
    | .variable name =>
      setLast (← next)
      if dry then return 0 else variableValue lookup name
    | .binary "+" => operand dry fuel (← next)
    | .binary "-" => return -(← operand dry fuel (← next))
    | .not => return truth ((← operand dry fuel (← next)) == 0)
    | .complement => return ~~~(← operand dry fuel (← next))
    | _ => mistake text "expecting primary"

/-- The operators behind `a`, as long as they bind more strongly than `bound`. -/
def operations (dry : Bool) (a : Int64) (operator : String) (bound : Nat) : Nat → Calc Int64
  | 0 => mistake text "expecting primary"
  | fuel + 1 => do
    let b ← operand dry fuel (← next)
    let b ← do
      match (← get).last with
      | .binary other =>
        if strength other < strength operator then operations dry b other (strength operator) fuel
        else pure b
      | _ => pure b
    let a ← if dry then pure b else applied text operator a b
    match (← get).last with
    | .binary other => if bound ≤ strength other then return a else operations dry a other bound fuel
    | _ => return a

def operated (dry : Bool) : Nat → Token → Calc Int64
  | 0, _ => mistake text "expecting primary"
  | fuel + 1, token => do
    let a ← operand dry fuel token
    match (← get).last with
    | .binary operator => operations dry a operator weakest fuel
    | _ => return a

def conjunction (dry : Bool) : Nat → Token → Calc Int64
  | 0, _ => mistake text "expecting primary"
  | fuel + 1, token => do
    let a ← operated dry fuel token
    if (← get).last ≠ .both then return a
    let b ← conjunction (dry || a == 0) fuel (← next)
    return truth (a != 0 && b != 0)

def disjunction (dry : Bool) : Nat → Token → Calc Int64
  | 0, _ => mistake text "expecting primary"
  | fuel + 1, token => do
    let a ← conjunction dry fuel token
    if (← get).last ≠ .either then return a
    let b ← disjunction (dry || a != 0) fuel (← next)
    return truth (a != 0 || b != 0)

def choice (dry : Bool) : Nat → Token → Calc Int64
  | 0, _ => mistake text "expecting primary"
  | fuel + 1, token => do
    let a ← disjunction dry fuel token
    if (← get).last ≠ .question then return a
    let b ← assignment (dry || a == 0) fuel (← next)
    if (← get).last ≠ .colon then mistake text "expecting ':'"
    let c ← choice (dry || a != 0) fuel (← next)
    return if a != 0 then b else c

def assignment (dry : Bool) : Nat → Token → Calc Int64
  | 0, _ => mistake text "expecting primary"
  | fuel + 1, token => do
    match token with
    | .variable name =>
      let s ← get
      match ← next with
      | .assign operator =>
        let n ← assignment dry fuel (← next)
        if dry then return n
        let n ← if operator == "=" then pure n
          else applied text operator (← variableValue lookup name) n
        modify fun s => { s with assigned := (name, n) :: s.assigned }
        return n
      | _ =>
        set s
        choice dry fuel token
    | _ => choice dry fuel token

end

end

/-- The value of an expression, or what is wrong with it, and the variables that it has assigned
to, the last one first. -/
def evaluate (text : String) (lookup : String → Option String) :
    Except String Int64 × List (String × Int64) :=
  let computed : Calc Int64 := do
    let n ← assignment text lookup false (20 * text.length + 20) (← next)
    if (← get).last ≠ .stop then mistake text "expecting EOF"
    return n
  let (result, s) := computed.run.run { rest := text.toList }
  (result, s.assigned)

end PipeShell.Host.Script.Arithmetic
