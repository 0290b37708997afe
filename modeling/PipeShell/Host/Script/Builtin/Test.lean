import PipeShell.Host.Number.Integer
import PipeShell.Host.Script.Builtin.Operands

/-! # Conditions: `test` and `[` -/

namespace PipeShell.Host.Script.Builtin

/-- What a word can mean in a condition. -/
inductive Operator where
  | unary | binary | negation | both | either | openParen | closeParen
  deriving DecidableEq, Repr

namespace Condition

def unary : List String := [
  "-r", "-w", "-x", "-e", "-f", "-d", "-c", "-b", "-p", "-u", "-g", "-k", "-s", "-t", "-z", "-n",
  "-h", "-L", "-O", "-G", "-S"]

def binary : List String := [
  "=", "!=", "<", ">", "-eq", "-ne", "-ge", "-gt", "-le", "-lt", "-nt", "-ot", "-ef"]

def operator? (word : String) : Option Operator :=
  match word with
  | "!" => some .negation
  | "-a" => some .both
  | "-o" => some .either
  | "(" => some .openParen
  | ")" => some .closeParen
  | _ =>
    if unary.contains word then some .unary
    else if binary.contains word then some .binary
    else none

/-- Whether a word that could be a unary operator is an operand because of what follows it. -/
def isOperand (rest : List String) : Bool :=
  match rest with
  | [] => true
  | [_] => false
  | next :: _ => operator? next == some .binary

/-- What the first word means; nothing if it is an operand. -/
def operatorAt? (words : List String) : Option Operator :=
  match words with
  | [] => none
  | word :: rest => match operator? word with
    | some .unary => if isOperand rest then none else some .unary
    | some .openParen => if rest.isEmpty then none else some .openParen
    | o => o

/-! ## Facts -/

def complain {α : Type} (word what : String) : Sh α :=
  Sh.fail (if word.isEmpty then what else word ++ ": " ++ what)

def number (text : String) : Sh Int := do
  let cs := text.toList
  let (n, far, rest) := Number.Integer.read 10 cs
  let isNumber := rest.length < cs.length && rest.all Number.Floating.isSpace
  if !isNumber || Number.Integer.signedFar n far then Sh.fail ("Illegal number: " ++ text)
  return n

def node? (path : String) (follow : Bool) : Sh (Option (Inode × Node)) :=
  Sh.act (Act.files fun fs cwd => match fs.resolve cwd path follow with
    | .ok i => (fs.node? i).map (i, ·)
    | .error _ => none)

/-- A fact about a file. All files may be read and written, and a file that anybody may run can be
run; directories can be entered. -/
def fileFact (operator path : String) : Sh Bool := do
  match ← node? path (operator != "-h" && operator != "-L") with
  | none => return false
  | some (_, node) => return match operator, node.body with
    | "-f", .file _ | "-f", .program _ | "-d", .directory .. | "-p", .fifo _ => true
    | "-b", .device device => device.isBlocks
    | "-c", .device device => !device.isBlocks
    | "-h", .link _ | "-L", .link _ => true
    | "-e", _ | "-r", _ | "-w", _ => true
    | "-O", _ => node.owner == 0
    | "-G", _ => node.group == 0
    | "-x", .directory .. => true
    | "-x", _ => node.mode &&& 0o111 != 0
    | "-s", .file content => !content.isEmpty
    | "-s", .program _ | "-s", .directory .. => true
    | "-u", _ => node.mode &&& 0o4000 != 0
    | "-g", _ => node.mode &&& 0o2000 != 0
    | "-k", _ => node.mode &&& 0o1000 != 0
    | _, _ => false

def unaryFact (operator operand : String) : Sh Bool := do
  match operator with
  | "-z" => return operand.isEmpty
  | "-n" => return !operand.isEmpty
  | "-t" =>
    let _ ← number operand
    return false
  | _ => fileFact operator operand

def binaryFact (a operator b : String) : Sh Bool := do
  let numbers (f : Int → Int → Bool) : Sh Bool := do
    let x ← number a
    return f x (← number b)
  match operator with
  | "=" => return a == b
  | "!=" => return a != b
  | "<" => return a < b
  | ">" => return b < a
  | "-eq" => numbers (· == ·)
  | "-ne" => numbers (· != ·)
  | "-ge" => numbers (· ≥ ·)
  | "-gt" => numbers (· > ·)
  | "-le" => numbers (· ≤ ·)
  | "-lt" => numbers (· < ·)
  | _ =>
    let x ← node? a true
    let y ← node? b true
    return match operator, x, y with
      | "-ef", some (i, _), some (j, _) => i == j
      | "-nt", some (_, m), some (_, n) => n.modified < m.modified
      | "-ot", some (_, m), some (_, n) => m.modified < n.modified
      | _, _, _ => false

/-! ## Combinations

A reader is given the words from where it is to begin and gives the truth and the words from the
last one on that it has used, so that what follows can be looked at. -/

mutual

/-- Conditions of which one has to hold. -/
def either (found : Bool) (words : List String) : Nat → Sh (Bool × List String)
  | 0 => return (found, words)
  | fuel + 1 => do
    let (b, words) ← both true words fuel
    match operatorAt? (words.drop 1) with
    | some .either => either (found || b) (words.drop 2) fuel
    | _ => return (found || b, words)

/-- Conditions that all have to hold. -/
def both (held : Bool) (words : List String) : Nat → Sh (Bool × List String)
  | 0 => return (held, words)
  | fuel + 1 => do
    let (b, words) ← negated words fuel
    match operatorAt? (words.drop 1) with
    | some .both => both (held && b) (words.drop 2) fuel
    | _ => return (held && b, words)

def negated (words : List String) : Nat → Sh (Bool × List String)
  | 0 => return (false, words)
  | fuel + 1 => do
    match operatorAt? words with
    | some .negation =>
      let (b, words) ← negated (if words.length == 1 then [] else words.drop 1) fuel
      return (!b, words)
    | o => primary o words fuel

/-- A condition that is not combined. `o` is what its first word means. -/
def primary (o : Option Operator) (words : List String) : Nat → Sh (Bool × List String)
  | 0 => return (false, words)
  | fuel + 1 => do
    match words with
    | [] => return (false, [])
    | word :: rest => match o with
      | some .openParen =>
        if operatorAt? rest == some .closeParen then return (false, rest)
        let (b, words) ← either false rest fuel
        let words := words.drop 1
        if operatorAt? words != some .closeParen then complain "" "closing paren expected"
        return (b, words)
      | some .unary => match rest with
        | [] => complain word "argument expected"
        | operand :: _ => return (← unaryFact word operand, rest)
      | _ => match operatorAt? rest, rest with
        | some .binary, operator :: more => match more with
          | [] => complain operator "argument expected"
          | operand :: _ => return (← binaryFact word operator operand, more)
        | _, _ => return (!word.isEmpty, words)

end

/-- A condition that takes all words. With `asOperand` the first one is an operand. -/
def whole (asOperand : Bool) (words : List String) : Sh Bool := do
  let fuel := 8 * words.length + 8
  let (b, left) ← if asOperand then primary none words fuel else either false words fuel
  match left with
  | word :: _ :: _ => complain word "unexpected operator"
  | _ => return b

/-- The truth of a condition. With three or four words it is settled first what they can be; a
negation that is found so counts once. -/
def truth (denied : Bool) (words : List String) : Nat → Sh Bool
  | 0 => return denied
  | fuel + 1 => do
    let grouped : Sh Bool := do
      if words.head? == some "(" && words.getLast? == some ")" then
        return (← whole false (words.drop 1).dropLast) != denied
      else if words.head? == some "!" then truth true (words.drop 1) fuel
      else return (← whole false words) != denied
    match words with
    | [] => return denied
    | [_, operator, _] =>
      if operator? operator == some .binary then return (← whole true words) != denied
      else grouped
    | [_, _, _, _] => grouped
    | _ => return (← whole false words) != denied

end Condition

def test (operands : List String) : Sh Nat := do
  return if ← Condition.truth false operands (operands.length + 1) then 0 else 1

/-- As `test`, up to a closing bracket. -/
def bracket (operands : List String) : Sh Nat := do
  if operands.getLast? != some "]" then Sh.fail "missing ]"
  test operands.dropLast

end PipeShell.Host.Script.Builtin
