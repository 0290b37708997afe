import PipeShell.Host.Tool.Options

/-! # The tools `cut` and `paste`

They take columns out of lines and put lines together as columns. -/

namespace PipeShell.Host.Tool

/-! ## Ranges -/

namespace Range

/-- The numbers from a first to a last one, or to the end. -/
abbrev Span := Nat × Option Nat

/-- How mistakes in a list are called: for bytes and for fields. -/
structure Wording where
  range : String
  zero : String
  large : Message → Message
  value : Message → Message
  missing : String

def ofBytes : Wording where
  range := "invalid byte or character range"
  zero := "byte/character positions are numbered from 1"
  large n := "byte/character offset " ++ n ++ " is too large"
  value v := "invalid byte/character position " ++ v
  missing := "missing list of byte/character positions"

def ofFields : Wording where
  range := "invalid field range"
  zero := "fields are numbered from 1"
  large n := "field number " ++ n ++ " is too large"
  value v := "invalid field value " ++ v
  missing := "missing list of fields"

def isEnd (c : Char) : Bool := c == ',' || c == ' ' || c == '\t'

/-- The digits at the start of a text, which have to make a machine word. -/
def number (w : Wording) (cs : List Char) : Tool (Option Nat × List Char) := do
  let digits := cs.takeWhile Char.isDigit
  if digits.isEmpty then return (none, cs)
  let n := digits.foldl (fun n c => 10 * n + (c.toNat - '0'.toNat)) 0
  if 2 ^ 64 ≤ n then misuse 1 (w.large (quote (String.ofList digits)))
  return (some n, cs.drop digits.length)

/-- Reads a list of ranges. -/
def parse (w : Wording) (spans : List Span) (cs : List Char) : Nat → Tool (List Span)
  | 0 => return spans
  | fuel + 1 => do
    let next (span : Span) (cs : List Char) : Tool (List Span) := match cs with
      | [] => return spans ++ [span]
      | c :: rest =>
        if isEnd c then parse w (spans ++ [span]) rest fuel
        else misuse 1 (w.value (quote (String.ofList (c :: rest))))
    let (first, cs) ← number w cs
    match cs with
    | '-' :: cs => do
      if first == some 0 then misuse 1 w.zero
      let (last, cs) ← number w cs
      if cs.head? == some '-' then misuse 1 w.range
      if !((cs.head?.map isEnd).getD true) then misuse 1 (w.value (quote (String.ofList cs)))
      if first.isNone && last.isNone then misuse 1 "invalid range with no endpoint: -"
      let start := first.getD 1
      if let some n := last then
        if n < start then misuse 1 "invalid decreasing range"
      next (start, last) cs
    | cs =>
      if !((cs.head?.map isEnd).getD true) then misuse 1 (w.value (quote (String.ofList cs)))
      match first with
      | none | some 0 => misuse 1 w.zero
      | some n => next (n, some n) cs

/-- Whether a last number comes before a first one. -/
def endsBefore (last : Option Nat) (first : Nat) : Bool :=
  match last with
  | some n => n < first
  | none => false

def later (a b : Option Nat) : Option Nat := do
  return max (← a) (← b)

/-- The ranges in order, those that overlap made one. -/
def merged (spans : List Span) : List Span :=
  let sorted := spans.mergeSort fun a b => a.1 ≤ b.1
  (sorted.foldl
    (fun (done : List Span) span => match done with
      | (first, last) :: rest =>
        if endsBefore last span.1 then span :: done else (first, later last span.2) :: rest
      | [] => [span])
    []).reverse

/-- The numbers from `next` on that are in none of the ranges. -/
def complement (next : Nat) : List Span → List Span
  | [] => [(next, none)]
  | (first, last) :: rest =>
    let gap : List Span := if next < first then [(next, some (first - 1))] else []
    gap ++ match last with
      | some n => complement (n + 1) rest
      | none => []

def contains (spans : List Span) (n : Nat) : Bool :=
  spans.any fun (first, last) => first ≤ n && !endsBefore last n

end Range

/-! ## `cut` -/

namespace Cut

structure Wanted where
  spans : List Range.Span
  /-- What separates fields; nothing if bytes are taken. -/
  separator : Option UInt8
  /-- What is put between what is taken, if that was said. -/
  joint : Option ByteArray
  /-- Whether lines without a separator are left out. -/
  onlySeparated : Bool
  stop : UInt8

/-- The bytes of a line in the ranges, range by range. -/
def bytesOf (w : Wanted) (line : ByteArray) : ByteArray :=
  let parts := (w.spans.filter fun span => span.1 ≤ line.size).map fun (first, last) =>
    line.extract (first - 1) (last.getD line.size)
  let joint := w.joint.getD .empty
  match parts with
  | [] => .empty
  | part :: parts => parts.foldl (fun out part => out ++ joint ++ part) part

/-- The fields of a line. -/
def fieldsOf (separator : UInt8) (line : ByteArray) : List ByteArray :=
  let (fields, left) :=
    linesIn separator (fun (fs : Array ByteArray) f => fs.push f) #[] line 0 (line.size + 1)
  (fields.push left).toList

def cutLine (w : Wanted) (out line : ByteArray) : ByteArray :=
  match w.separator with
  | none => (out ++ bytesOf w line).push w.stop
  | some separator =>
    match fieldsOf separator line with
    | [_] => if w.onlySeparated then out else (out ++ line).push w.stop
    | fields =>
      let joint := w.joint.getD ⟨#[separator]⟩
      let taken := (fields.zipIdx.filter fun (_, i) => Range.contains w.spans (i + 1)).map (·.1)
      let text := match taken with
        | [] => ByteArray.empty
        | field :: rest => rest.foldl (fun text field => text ++ joint ++ field) field
      (out ++ text).push w.stop

end Cut

open Cut in
def cut (call : Call) : Tool Nat := do
  let add (list : Option Given) (given : Given) : Tool (Option Given) := do
    let (key, text) := given
    if key == "d" && 1 < (text.getD "").length then misuse 1 "the delimiter must be a single character"
    if !(["b", "c", "f"].contains key) then return list
    if list.isSome then misuse 1 "only one list may be specified"
    return some given
  let (p, list) ← parseInto [.letter 'b' "bytes" .required, .letter 'c' "characters" .required,
    .letter 'd' "delimiter" .required, .letter 'f' "fields" .required, .letter 'n' "" .none,
    .letter 's' "only-delimited" .none, .letter 'z' "zero-terminated" .none,
    ⟨"complement", "complement", .none⟩, ⟨"output-delimiter", "output-delimiter", .required⟩]
    false 1 call.operands none add
  match list with
  | none => misuse 1 "you must specify a list of bytes, characters, or fields"
  | some (key, list) =>
    let ofFields := key == "f"
    if p.has "d" && !ofFields then
      misuse 1 "an input delimiter may be specified only when operating on fields"
    if p.has "s" && !ofFields then
      misuse 1 "suppressing non-delimited lines makes sense\n\tonly when operating on fields"
    let cs := (list.getD "").toList
    let spans ← Range.parse (if ofFields then Range.ofFields else Range.ofBytes) [] cs (cs.length + 1)
    let spans := Range.merged spans
    let separator := match ((p.last? "d").getD "\t").toList with
      | c :: _ => UInt8.ofNat c.toNat
      | [] => 0
    let w : Wanted := {
      spans := if p.has "complement" then Range.complement 1 spans else spans
      separator := if ofFields then some separator else none
      joint := (p.last? "output-delimiter").map fun text =>
        ByteText.toBytes (if text.isEmpty then "\x00" else text)
      onlySeparated := p.has "s"
      stop := if p.has "z" then 0 else 10 }
    let mut code := 0
    for name in orInput p.operands do
      match ← openOperand name with
      | .error e =>
        warnOf (quoteName name) e
        code := 1
      | .ok fd =>
        let ((), failure) ← forLines fd w.stop (fun () out line _ => ((), Cut.cutLine w out line)) ()
        closeOperand fd
        if let some e := failure then
          warnOf (quoteName name) e
          code := 1
    return code

/-! ## `paste` -/

namespace Paste

/-- What stands between columns, each in its turn; nothing at all is possible. -/
abbrev Joints := List (Option UInt8)

/-- Reads a list of separators. -/
def joints (cs : List Char) : Option Joints :=
  match cs with
  | [] => some []
  | ['\\'] => none
  | '\\' :: c :: rest =>
    let joint : Option UInt8 := match c with
      | '0' => none
      | 'b' => some 8
      | 'f' => some 12
      | 'n' => some 10
      | 'r' => some 13
      | 't' => some 9
      | 'v' => some 11
      | c => some (UInt8.ofNat c.toNat)
    (joints rest).map (joint :: ·)
  | c :: rest => (joints rest).map (some (UInt8.ofNat c.toNat) :: ·)

def addJoint (joints : Joints) (i : Nat) (out : ByteArray) : ByteArray :=
  match joints[i % joints.length]? with
  | some (some b) => out.push b
  | _ => out

/-- Puts parts together, with the joints in turn between them. -/
def join (joints : Joints) (stop : UInt8) (parts : List ByteArray) : ByteArray :=
  match parts with
  | [] => ⟨#[stop]⟩
  | part :: parts =>
    (parts.zipIdx.foldl (fun out (part, i) => addJoint joints i out ++ part) part).push stop

/-- Takes a line from each column's input; columns may share one. -/
def row (stop : UInt8) (inputs : List LineInput) : List Nat → Tool (List (Option ByteArray) × List LineInput)
  | [] => return ([], inputs)
  | i :: rest => match inputs[i]? with
    | none => row stop inputs rest
    | some input => do
      let (line, input) ← input.next stop Act.manyReads
      let (lines, inputs) ← row stop (inputs.set i input) rest
      return (line :: lines, inputs)

/-- Puts rows out as long as a column has a line. -/
def rows (joints : Joints) (stop : UInt8) (columns : List Nat) (inputs : List LineInput) :
    Nat → Tool (List LineInput)
  | 0 => return inputs
  | fuel + 1 => do
    let (lines, inputs) ← row stop inputs columns
    if lines.all (·.isNone) then return inputs
    put (join joints stop (lines.map (·.getD .empty)))
    rows joints stop columns inputs fuel

/-- Puts all lines of one input into one. -/
def series (joints : Joints) (stop : UInt8) (fd : Nat) : Tool (Option Errno) := do
  let step (i : Nat) (out line : ByteArray) (_ : Bool) : Nat × ByteArray :=
    (i + 1, (if i == 0 then out else addJoint joints (i - 1) out) ++ line)
  let (_, failure) ← forLines fd stop step 0
  put ⟨#[stop]⟩
  return failure

end Paste

open Paste in
def paste (call : Call) : Tool Nat := do
  let p ← parse [.letter 'd' "delimiters" .required, .letter 's' "serial" .none,
    .letter 'z' "zero-terminated" .none] false 1 call.operands
  let stop : UInt8 := if p.has "z" then 0 else 10
  let list := (p.last? "d").getD "\t"
  match joints list.toList with
  | none =>
    fail 1 ("delimiter list ends with an unescaped backslash: " ++
      ⟨[.word .cMaybe [':'] list]⟩)
  | some joints =>
    let joints := if joints.isEmpty then [none] else joints
    let names := orInput p.operands
    let mut code := 0
    if p.has "s" then
      for name in names do
        match ← openOperand name with
        | .error e =>
          warnOf (quoteName name) e
          code := 1
        | .ok fd =>
          let failure ← series joints stop fd
          closeOperand fd
          if let some e := failure then
            warnOf (quoteName name) e
            code := 1
      return code
    let mut inputs : Array LineInput := #[{ fd := 0 }]
    let mut columns : Array Nat := #[]
    for name in names do
      if name == "-" then columns := columns.push 0
      else match ← openOperand name with
        | .error e => fail 1 (quoteName name ++ ": " ++ e.message)
        | .ok fd =>
          columns := columns.push inputs.size
          inputs := inputs.push { fd }
    let ended ← rows joints stop columns.toList inputs.toList Act.manyReads
    for (name, column) in names.zip columns.toList do
      if let some e := (ended[column]?).bind (·.failure) then
        warnOf (quoteName name) e
        code := 1
    return code

end PipeShell.Host.Tool
