import PipeShell.Host.Tool.Basic

/-! # Permission bits as they are written

A mode is an octal number, or changes between commas: for whom, an operator, and which permissions. -/

namespace PipeShell.Host.Tool.Mode

/-- A change of permission bits. -/
structure Change where
  /-- The bits of those that it is about; zero if nobody is named. -/
  who : Nat
  operator : Char
  /-- Permissions for everybody. -/
  bits : Nat
  /-- Whether permission to execute is given only where there is some already. -/
  guarded : Bool := false
  /-- The bits of those whose permissions are copied. -/
  copied : Option Nat := none
  /-- Whether the change sets bits by number, so that the mask plays no part. -/
  exact : Bool := false
  /-- Whether the set-id bits of a directory are set too, and not only those that are named. -/
  whole : Bool := false

/-- A mode as it is written. -/
abbrev Spec := List Change

def whoBits : Char → Option Nat
  | 'u' => some 0o4700
  | 'g' => some 0o2070
  | 'o' => some 0o1007
  | 'a' => some 0o7777
  | _ => none

def permission : Char → Option Nat
  | 'r' => some 0o444
  | 'w' => some 0o222
  | 'x' => some 0o111
  | 's' => some 0o6000
  | 't' => some 0o1000
  | _ => none

def isOperator (c : Char) : Bool := c == '+' || c == '-' || c == '='

/-- Reads the permissions behind an operator. -/
def permissions (change : Change) : List Char → Change × List Char
  | [] => (change, [])
  | c :: cs => match permission c with
    | some bits => permissions { change with bits := change.bits ||| bits } cs
    | none => if c == 'X' then permissions { change with guarded := true } cs else (change, c :: cs)

/-- Reads what follows an operator: octal digits, somebody whose permissions are copied, or letters. -/
def operand (change : Change) (cs : List Char) : Option (Change × List Char) :=
  match cs with
  | c :: rest =>
    if '0' ≤ c && c ≤ '7' then
      let digits := cs.takeWhile fun c => '0' ≤ c && c ≤ '7'
      let n := digits.foldl (fun n c => 8 * n + (c.toNat - '0'.toNat)) 0
      let after := cs.drop digits.length
      if 0o7777 < n || change.who != 0 || !(after.isEmpty || after.head? == some ',') then none
      else some ({ change with bits := n, who := 0o7777, exact := true, whole := true }, after)
    else match whoBits c with
      | some copied => if c == 'a' then some (change, cs) else some ({ change with copied := some copied }, rest)
      | none => some (permissions change cs)
  | [] => some (change, [])

/-- Reads the changes, from those that each is about on. -/
def changes (who : Nat) (cs : List Char) (done : Spec) : Nat → Option Spec
  | 0 => none
  | fuel + 1 => match cs with
    | [] => none
    | c :: rest =>
      if isOperator c then
        match operand { who, operator := c, bits := 0 } rest with
        | none => none
        | some (change, after) =>
          let done := done ++ [change]
          match after with
          | [] => some done
          | ',' :: after => changes 0 after done fuel
          | d :: _ => if isOperator d then changes who after done fuel else none
      else match whoBits c with
        | some bits => changes (who ||| bits) rest done fuel
        | none => none

def ofString? (text : String) : Option Spec :=
  let cs := text.toList
  if cs.isEmpty then none
  else if cs.all fun c => '0' ≤ c && c ≤ '7' then
    let n := cs.foldl (fun n c => 8 * n + (c.toNat - '0'.toNat)) 0
    if 0o7777 < n then none
    else some [{ who := 0o7777, operator := '=', bits := n, exact := true, whole := 4 < cs.length }]
  else changes 0 cs [] (2 * cs.length + 2)

/-- The permissions that those named have, for everybody. -/
def spread (who mode : Nat) : Nat :=
  let three := if who == 0o4700 then mode / 64 else if who == 0o2070 then mode / 8 else mode
  let three := three &&& 7
  three * 64 ||| three * 8 ||| three

def without (a b : Nat) : Nat := a - (a &&& b)

/-- Makes a change to a mode. If nobody is named, bits of the mask are left alone. -/
def Change.apply (c : Change) (isDirectory : Bool) (mask mode : Nat) : Nat :=
  let bits := match c.copied with
    | some who => spread who mode
    | none => c.bits
  let bits := if c.guarded && (isDirectory || mode &&& 0o111 != 0) then bits ||| 0o111 else bits
  let bits := if c.exact then bits
    else bits &&& (if c.who == 0 then without 0o7777 mask else c.who)
  -- The set-id bits of a directory stay unless they are named.
  let kept := if isDirectory && !c.whole then without 0o6000 (if c.exact then 0 else bits) else 0
  match c.operator with
  | '+' => mode ||| bits
  | '-' => without mode bits
  | _ =>
    let cleared := if c.exact then mode &&& kept
      else (without mode (if c.who == 0 then 0o7777 else c.who)) ||| (mode &&& kept)
    cleared ||| bits

def apply (spec : Spec) (isDirectory : Bool) (mask mode : Nat) : Nat :=
  spec.foldl (fun mode c => c.apply isDirectory mask mode) mode

end PipeShell.Host.Tool.Mode
