import PipeShell.Host.Tool.Basic

/-! # Conditions

A condition is a list of words. Up to four words are read by their number alone; more of them are
read as alternatives of conjunctions of terms. -/

namespace PipeShell.Host.Tool
namespace Condition

/-- Ends the tool because a condition makes no sense. -/
def refuse {α : Type} (text : Message) : Tool α := fail 2 text

/-- The words that are left, and the last one of all for messages. -/
structure State where
  rest : List String
  last : String

abbrev Reading := StateT State Tool

def beyond {α : Type} : Reading α := do
  refuse ("missing argument after " ++ quote (← get).last)

def drop (n : Nat) : Reading Unit := modify fun s => { s with rest := s.rest.drop n }

/-- Goes on to the next word, which has to be there. -/
def advance : Reading Unit := do
  drop 1
  if (← get).rest.isEmpty then beyond

def isBinary (word : String) : Bool :=
  ["=", "!=", "==", "-nt", "-ot", "-ef", "-eq", "-ne", "-lt", "-le", "-gt", "-ge"].contains word

def isUnaryForm (word : String) : Bool :=
  match word.toList with
  | ['-', _] => true
  | _ => false

def unaryLetters : String := "bcdefgGhkLnNOprsStuwxz"

/-- A whole number with blanks around it. -/
def integer (text : String) : Tool Int := do
  let isBlank (c : Char) : Bool := c == ' ' || c == '\t'
  let cs := text.toList.dropWhile fun c => isBlank c || (9 ≤ c.toNat && c.toNat ≤ 13)
  let (negative, cs) := match cs with
    | '-' :: rest => (true, rest)
    | '+' :: rest => (false, rest)
    | rest => (false, rest)
  let digits := cs.takeWhile Char.isDigit
  let left := (cs.drop digits.length).dropWhile isBlank
  if digits.isEmpty || !left.isEmpty then refuse ("invalid integer " ++ quote text)
  let n := (String.ofList digits).toNat?.getD 0
  return if negative then -(n : Int) else n

/-- What is known of the file that a path names. -/
def nodeOf (path : String) (follow : Bool) : Tool (Option (FileSystem × Node)) := files fun fs cwd =>
  match fs.resolve cwd path follow with
  | .ok i => (fs.node? i).map fun n => (fs, n)
  | .error _ => none

def unaryOperator : Reading Bool := do
  let word := (← get).rest.headD ""
  let letter := (word.toList.drop 1).headD ' '
  if !unaryLetters.toList.contains letter then refuse (quote word ++ ": unary operator expected")
  advance
  let operand := (← get).rest.headD ""
  drop 1
  let node ← nodeOf operand (letter != 'h' && letter != 'L')
  let body : Option Body := node.map (·.2.body)
  let mode := (node.map (·.2.mode)).getD 0
  match letter with
  | 'n' => return !operand.isEmpty
  | 'z' => return operand.isEmpty
  | 't' =>
    let _ ← integer operand
    return false
  | 'f' => return match body with
    | some (.file _) | some (.program _) => true
    | _ => false
  | 'd' => return match body with
    | some (.directory ..) => true
    | _ => false
  | 'h' | 'L' => return match body with
    | some (.link _) => true
    | _ => false
  | 'p' => return match body with
    | some (.fifo _) => true
    | _ => false
  | 'b' => return match body with
    | some (.device device) => device.isBlocks
    | _ => false
  | 'c' => return match body with
    | some (.device device) => !device.isBlocks
    | _ => false
  | 's' => return match body with
    | some (.file content) => !content.isEmpty
    | some (.directory ..) | some (.program _) => true
    | _ => false
  | 'x' => return match body with
    | some (.directory ..) => true
    | _ => mode &&& 0o111 != 0
  | 'g' => return mode &&& 0o2000 != 0
  | 'u' => return mode &&& 0o4000 != 0
  | 'k' => return mode &&& 0o1000 != 0
  | 'O' => return node.any (·.2.owner == 0)
  | 'G' => return node.any (·.2.group == 0)
  | 'N' => return node.any fun (_, n) => n.accessed < n.modified
  | 'S' => return false
  | _ => return node.isSome

/-- A side of a comparison of numbers: a number, or the length of a word. -/
def side (isLength : Bool) (word : String) : Tool Int :=
  if isLength then return word.length else integer word

def binaryOperator (leftLength : Bool) : Reading Bool := do
  if leftLength then drop 1
  let rest := (← get).rest
  let left := rest.headD ""
  let operator := rest.getD 1 ""
  let rightLength := rest.length > 3 && rest.getD 2 "" == "-l"
  let right := if rightLength then rest.getD 3 "" else rest.getD 2 ""
  let changed (path : String) : Tool (Option Moment) := return (← nodeOf path true).map (·.2.modified)
  let inode (path : String) : Tool (Option Inode) := files fun fs cwd => (fs.resolve cwd path true).toOption
  let noLength : Tool Unit :=
    if leftLength || rightLength then refuse (operator ++ " does not accept -l") else pure ()
  drop (if rightLength then 4 else 3)
  let numbers (holds : Int → Int → Bool) : Tool Bool :=
    return holds (← side leftLength left) (← side rightLength right)
  match operator with
  | "-eq" => numbers (· == ·)
  | "-ne" => numbers (· != ·)
  | "-lt" => numbers (· < ·)
  | "-le" => numbers (· ≤ ·)
  | "-gt" => numbers (· > ·)
  | "-ge" => numbers (· ≥ ·)
  | "-nt" =>
    noLength
    match ← changed left, ← changed right with
    | some a, some b => return b < a
    | a, b => return a.isSome && b.isNone
  | "-ot" =>
    noLength
    match ← changed left, ← changed right with
    | some a, some b => return a < b
    | a, b => return a.isNone && b.isSome
  | "-ef" =>
    noLength
    let a ← inode left
    return a.isSome && a == (← inode right)
  | "!=" => return left != right
  | _ => return left == right

def oneWord : Reading Bool := do
  let word := (← get).rest.headD ""
  drop 1
  return !word.isEmpty

def twoWords : Reading Bool := do
  let word := (← get).rest.headD ""
  if word == "!" then
    drop 1
    return !(← oneWord)
  if isUnaryForm word then unaryOperator else beyond

mutual

def threeWords (depth : Nat) : Reading Bool := do
  let rest := (← get).rest
  let first := rest.headD ""
  let second := rest.getD 1 ""
  if isBinary second then binaryOperator false
  else if first == "!" then
    advance
    return !(← twoWords)
  else if first == "(" && rest.getD 2 "" == ")" then
    drop 1
    let value ← oneWord
    drop 1
    return value
  else if second == "-a" || second == "-o" then alternatives depth
  else refuse (quote second ++ ": binary operator expected")

/-- Reads so many words. The depth bounds how deep conditions lie in one another. -/
def words (n depth : Nat) : Reading Bool := do
  let rest := (← get).rest
  match n with
  | 1 => oneWord
  | 2 => twoWords
  | 3 => threeWords depth
  | _ =>
    if n == 4 && rest.headD "" == "!" then
      advance
      return !(← threeWords depth)
    if n == 4 && rest.headD "" == "(" && rest.getD 3 "" == ")" then
      drop 1
      let value ← twoWords
      drop 1
      return value
    alternatives depth

def alternatives (depth : Nat) : Reading Bool := do
  match depth with
  | 0 => return false
  | depth + 1 =>
    if (← get).rest.isEmpty then beyond
    let first ← conjunction depth
    if (← get).rest.head? == some "-o" then
      drop 1
      let rest ← alternatives depth
      return first || rest
    return first

def conjunction (depth : Nat) : Reading Bool := do
  match depth with
  | 0 => return false
  | depth + 1 =>
    let first ← term depth
    if (← get).rest.head? == some "-a" then
      drop 1
      let rest ← conjunction depth
      return first && rest
    return first

def term (depth : Nat) : Reading Bool := do
  match depth with
  | 0 => return false
  | depth + 1 =>
    let rest := (← get).rest
    match rest with
    | [] => beyond
    | "!" :: _ =>
      advance
      return !(← term depth)
    | "(" :: inner =>
      advance
      let upTo := 1 + ((inner.drop 1).takeWhile (· != ")")).length
      let n := if upTo ≤ 4 then upTo else inner.length
      let value ← words n depth
      match (← get).rest with
      | [] => refuse (quote ")" ++ " expected")
      | word :: _ =>
        if word != ")" then refuse (quote ")" ++ " expected, found " ++ quote word)
        drop 1
        return value
    | word :: second :: more =>
      if word == "-l" && more.length ≥ 2 && isBinary (more.headD "") then binaryOperator true
      else if !more.isEmpty && isBinary second then binaryOperator false
      else if isUnaryForm word then unaryOperator
      else oneWord
    | [word] => if isUnaryForm word then unaryOperator else oneWord

end

/-- Tells whether a condition holds. -/
def holds (operands : List String) : Tool Nat := do
  match operands.getLast? with
  | none => return 1
  | some last =>
    let (value, s) ← (words operands.length (4 * operands.length + 4)).run { rest := operands, last }
    if let extra :: _ := s.rest then refuse ("extra argument " ++ quote extra)
    return if value then 0 else 1

end Condition

def test (call : Call) : Tool Nat := Condition.holds call.operands

/-- As `test`, between brackets. -/
def bracketed (call : Call) : Tool Nat := do
  if call.operands.getLast? != some "]" then Condition.refuse ("missing " ++ quote "]")
  Condition.holds call.operands.dropLast

end PipeShell.Host.Tool
