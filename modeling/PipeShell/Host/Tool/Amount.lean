import PipeShell.Host.Number.Human
import PipeShell.Host.Number.Integer
import PipeShell.Host.Tool.Basic

/-! # Amounts

Numbers that a tool is told, perhaps with a letter behind them that stands for a factor. -/

namespace PipeShell.Host.Tool

open PipeShell.Host.Number

namespace Amount

/-- What is wrong with a text that is no amount. -/
inductive Mistake where
  | noNumber
  | tooLarge
  /-- There is a number, but what stands behind it is no factor. -/
  | badSuffix (n : Int) (tooLarge : Bool)
  deriving DecidableEq, Repr

/-- The power of 1024, or of 1000, that a letter stands for. -/
def powers : List (Char × Nat) := [
  ('k', 1), ('K', 1), ('m', 2), ('M', 2), ('g', 3), ('G', 3), ('t', 4), ('T', 4), ('P', 5),
  ('E', 6), ('Z', 7), ('Y', 8)]

/-- The factor behind a number and how many letters it takes. In a list of letters with a zero a
factor may end in `B`, for a power of 1000, or in `iB`. -/
def factor? (letters : List Char) (suffix : List Char) : Option (Nat × Nat) :=
  match suffix with
  | [] => some (1, 0)
  | c :: rest =>
    if !letters.contains c then none
    else match c with
      | 'b' => some (512, 1)
      | 'B' => some (1024, 1)
      | 'c' => some (1, 1)
      | 'w' => some (2, 1)
      | c => match powers.lookup c with
        | none => none
        | some power =>
          if !letters.contains '0' then some (1024 ^ power, 1)
          else match rest with
            | 'i' :: 'B' :: _ => some (1024 ^ power, 3)
            | 'B' :: _ | 'D' :: _ => some (1000 ^ power, 2)
            | _ => some (1024 ^ power, 1)

/-- Reads an amount whose number stands in a base; zero leaves that to the number. A number that may
not be below zero has no minus sign. -/
def readIn (base : Nat) (isSigned : Bool) (letters : String) (text : String) : Except Mistake Int := do
  let cs := text.toList
  let isMinus := (cs.dropWhile Floating.isSpace).head? == some '-'
  if !isSigned && isMinus then throw .noNumber
  let (n, far, rest) := Integer.read base cs
  let letters := letters.toList
  let (n, rest) ← if rest.length == cs.length then
      -- A factor alone stands for itself.
      if (rest.head?.map letters.contains).getD false then pure (1, rest) else throw .noNumber
    else pure (n, rest)
  let isFar (n : Int) : Bool := if isSigned then Integer.signedFar n far else far || 2 ^ 64 ≤ n
  match factor? letters rest with
  | none => throw (.badSuffix n (isFar n))
  | some (factor, size) =>
    let n := n * factor
    if (rest.drop size).isEmpty then
      if isFar n then throw .tooLarge else pure n
    else throw (.badSuffix n (isFar n))

def read (isSigned : Bool) (letters : String) (text : String) : Except Mistake Int :=
  readIn 10 isSigned letters text

end Amount

def valueTooLarge : Errno := ⟨75⟩

def outOfRange : Errno := ⟨34⟩

/-- Ends the tool because of an amount. -/
def refuseAmount {α : Type} (code : Nat) (what text : String) (reason : Option Errno) : Tool α :=
  let why := match reason with
    | some e => ": " ++ e.message
    | none => ""
  fail code (what ++ ": " ++ quote text ++ why)

/-- An amount within bounds; another one ends the tool. -/
def amountWithin (isSigned : Bool) (letters : String) (least most : Int) (what text : String) :
    Tool Int :=
  match Amount.read isSigned letters text with
  | .ok n =>
    if n < least || most < n then
      refuseAmount 1 what text (some (if 2 ^ 30 ≤ n || n < -(2 ^ 30) then valueTooLarge else outOfRange))
    else return n
  | .error .tooLarge => refuseAmount 1 what text (some valueTooLarge)
  | .error _ => refuseAmount 1 what text none

/-- The factors of sizes. -/
def sizeLetters : String := "bkKmMGTPEZY0"

/-- A number of lines or bytes. -/
def sizeAmount (what text : String) : Tool Nat := do
  return (← amountWithin false sizeLetters 0 (2 ^ 64 - 1) what text).toNat

/-- Ends the tool because of an amount that is an option's argument, which is shown as it is. -/
def refuseArgument {α : Type} (code : Nat) (option text : String) (mistake : Amount.Mistake) : Tool α :=
  let shown := option ++ " argument '" ++ text ++ "'"
  match mistake with
  | .noNumber => fail code ("invalid " ++ shown)
  | .badSuffix _ _ => fail code ("invalid suffix in " ++ shown)
  | .tooLarge => fail code (shown ++ " too large")

/-- The variable that says which version of the standard tools keep to. -/
def versionVariable : String := "_POSIX2_VERSION"

/-- Whether a word with a plus sign in front is a name, as two versions of the standard have it, and
not a number in the old way. -/
def plusIsName (environment : List String) : Bool :=
  match valueIn environment versionVariable with
  | none => false
  | some text => match Integer.read 10 text.toList with
    | (n, _, []) => !text.isEmpty && 200112 ≤ n && n < 200809
    | _ => false

/-! ## Blocks -/

/-- The factors of block sizes. -/
def blockLetters : String := "eEgGkKmMpPtTyYzZ0"

/-- How sizes are shown, by a word that says it or by the size of a block. A size without a number
is the unit that stands behind each size. -/
def humanOf (text : String) : Except Amount.Mistake Human := do
  let cs := text.toList
  let cs := if cs.head? == some '\'' then cs.drop 1 else cs
  let text := String.ofList cs
  let words : List (String × Human) := [
    ("human-readable", { scales := true, binary := true, unit := true, block := 1 }),
    ("si", { scales := true, unit := true, block := 1 })]
  match (if text.isEmpty then none else words.find? (·.1.startsWith text)) with
  | some (_, human) => return human
  | none =>
    let n ← Amount.readIn 0 false blockLetters text
    if n == 0 then throw .noNumber
    let named := !cs.any Char.isDigit
    let byte := cs.getLast? == some 'B'
    return {
      block := n.toNat, unit := named, byte := named && byte
      binary := named && (!byte || cs.reverse.getD 1 ' ' == 'i') }

/-- How sizes are shown where no option says it, and whether the environment says it: by a variable
of the tool's own or by one for all tools. -/
def environmentBlocks (environment : List String) (own : String) : Human × Bool :=
  let usual : Human := { block := if (valueIn environment strictVariable).isSome then 512 else 1024 }
  let said := (valueIn environment own).or (valueIn environment "BLOCK_SIZE")
  match said.or (valueIn environment "BLOCKSIZE") with
  | none => (usual, false)
  | some text => ((humanOf text).toOption.getD usual, said.isSome)

end PipeShell.Host.Tool
