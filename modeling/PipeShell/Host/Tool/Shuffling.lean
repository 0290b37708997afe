import PipeShell.Host.Tool.Amount
import PipeShell.Host.Tool.Chance
import PipeShell.Host.Tool.Options
import Std.Data.HashMap

/-! # The tool `shuf`

Lines, words or numbers are written in an order that chance decides. -/

namespace PipeShell.Host.Tool

namespace Shuffling

/-- What is written in another order. -/
inductive Source where
  | words (ws : List String)
  | numbers (low high : Nat)
  | lines (file : Option String)

structure Wanted where
  source : Source
  /-- How many are written at most, if that was said. -/
  most : Option Nat := none
  repeats : Bool := false
  output : Option String := none
  chance : Option String := none
  stop : UInt8 := 10

/-- Draws a number below another one, or ends the tool. -/
def draw (name : Option String) (choices : Nat) (c : Chance) : Tool (Nat × Chance) :=
  match c.draw choices with
  | some found => return found
  | none => fail 1 (quote (name.getD "") ++ ": end of file")

/-- The first numbers of an order of those below `count`. Only those that are not at their own place
are kept. -/
def order (name : Option String) (count wanted : Nat) (c : Chance) : Tool (Array Nat) := do
  let mut moved : Std.HashMap Nat Nat := {}
  let mut found : Array Nat := #[]
  let mut c := c
  for i in [0:wanted] do
    let (k, next) ← draw name (count - i) c
    c := next
    let j := i + k
    found := found.push (moved.getD j j)
    moved := moved.insert j (moved.getD i i)
  return found

/-- Writes one of `count` items again and again. -/
def writeForever (name : Option String) (count : Nat) (item : Nat → ByteArray) (c : Chance) : Nat → Tool Unit
  | 0 => return ()
  | fuel + 1 => do
    let (i, c) ← draw name count c
    put (item i)
    writeForever name count item c fuel

/-- Of lines whose number is not known in advance so many are kept, each with the same chance. -/
def reservoir (name : Option String) (wanted : Nat) (lines : Array ByteArray) (c : Chance) :
    Tool (Array ByteArray × Chance) := do
  if lines.size < wanted then return (lines, c)
  let mut kept := lines.extract 0 wanted
  let mut c := c
  for i in [wanted:lines.size + 1] do
    let (j, next) ← draw name (i + 1) c
    c := next
    if j < wanted then kept := kept.setIfInBounds j (lines.getD i (kept.getD j .empty))
  return (kept, c)

/-- The source of chance that was named. -/
def chanceOf (name : Option String) : Tool Chance :=
  match name with
  | none => Chance.ofHost
  | some path => do
    match ← act (Act.openFile path { read := true }) with
    | .error e => fail 1 (quoteName path ++ ": " ++ e.message)
    | .ok fd =>
      let step (all bytes : ByteArray) : Tool (ByteArray × Bool) :=
        return (all ++ bytes, 2 ^ 20 ≤ all.size)
      let (bytes, failure) ← forBlocks fd Act.blockSize step .empty Act.manyReads
      act (Act.close fd)
      if let some e := failure then fail 1 (quote path ++ ": read error: " ++ e.message)
      return .ofBytes bytes

/-- The lines of an input, and whether its size is known. -/
def linesIn (stop : UInt8) (file : Option String) : Tool (Array ByteArray × Bool) := do
  match ← openOperand (file.getD "-") with
  | .error e => fail 1 (quoteName (file.getD "-") ++ ": " ++ e.message)
  | .ok fd =>
    let isMeasured := (← regularAt? fd).isSome
    let (bytes, failure) ← readWhole fd
    if let some e := failure then fail 1 ("read error: " ++ e.message)
    return ((linesOf stop bytes).1, isMeasured)

/-- From here on the output goes to a file. -/
def redirect (path : String) : Tool Unit := do
  match ← act (Act.openFile path { write := true, create := some 0o666, truncate := true }) with
  | .error e => fail 1 (quoteName path ++ ": " ++ e.message)
  | .ok fd => act (Act.change fun w => (w.duplicate fd 1).2)

/-- The source of chance for so many draws. Where nothing is drawn it is not opened. -/
def chanceFor (w : Wanted) (count : Nat) : Tool Chance :=
  if w.repeats || min count (w.most.getD count) != 0 then chanceOf w.chance else return .ofBytes .empty

/-- What there is to choose from: how many items, and each of them. Of some lines a part has been
chosen already. -/
def itemsOf (w : Wanted) : Tool (Nat × (Nat → ByteArray) × Chance) := do
  let ended (bytes : ByteArray) : ByteArray := bytes.push w.stop
  match w.source with
  | .words ws =>
    let words := (ws.map ByteText.toBytes).toArray
    return (words.size, fun i => ended (words.getD i .empty), ← chanceFor w words.size)
  | .numbers low high =>
    let count := high + 1 - low
    return (count, fun i => ended (toString (low + i)).toUTF8, ← chanceFor w count)
  | .lines file =>
    if w.most == some 0 then return (0, fun _ => .empty, ← chanceFor w 0)
    let (lines, isMeasured) ← linesIn w.stop file
    let (lines, c) ← match w.most with
      | some wanted =>
        if !w.repeats && !isMeasured then reservoir w.chance wanted lines (← chanceOf w.chance)
        else pure (lines, ← chanceFor w lines.size)
      | none => pure (lines, ← chanceFor w lines.size)
    return (lines.size, fun i => ended (lines.getD i .empty), c)

def write (w : Wanted) : Tool Unit := do
  let (count, item, c) ← itemsOf w
  if let some path := w.output then redirect path
  if w.repeats then
    if w.most == some 0 then return ()
    if count == 0 then fail 1 "no lines to repeat"
    writeForever w.chance count item c (w.most.getD Act.manyReads)
  else
    for i in ← order w.chance count (min count (w.most.getD count)) c do put (item i)

/-! ## Options -/

def refuseRange {α : Type} (text : String) (isFar : Bool) : Tool α :=
  fail 1 ("invalid input range: " ++ quote text ++ (if isFar then ": " ++ valueTooLarge.message else ""))

/-- Reads a first and a last number. -/
def rangeOf (text : String) : Tool (Nat × Nat) := do
  let cs := text.toList
  let numberOf (cs : List Char) : Tool (Nat × List Char) := do
    let (n, far, rest) := Number.Integer.read 10 cs
    if rest.length == cs.length || n < 0 || cs.head? == some '-' then refuseRange text false
    if far then refuseRange text true
    return (n.toNat, rest)
  let (low, rest) ← numberOf cs
  match rest with
  | '-' :: rest => do
    let (high, rest) ← numberOf rest
    if !rest.isEmpty || high + 1 < low || high + 1 - low == 2 ^ 64 then refuseRange text false
    return (low, high)
  | _ => refuseRange text false

def addOption (w : Wanted) (given : Given) : Tool Wanted := do
  let text := given.2.getD ""
  match given.1 with
  | "i" =>
    if let .numbers .. := w.source then fail 1 "multiple -i options specified"
    let (low, high) ← rangeOf text
    return { w with source := .numbers low high }
  | "n" =>
    match Amount.read false "" text with
    | .ok n => return { w with most := some (min n.toNat (w.most.getD n.toNat)) }
    | .error .tooLarge => return w
    | .error _ => fail 1 ("invalid line count: " ++ quote text)
  | "o" =>
    if w.output.any (· != text) then fail 1 "multiple output files specified"
    return { w with output := some text }
  | "random-source" =>
    if w.chance.any (· != text) then fail 1 "multiple random sources specified"
    return { w with chance := some text }
  | "r" => return { w with repeats := true }
  | "z" => return { w with stop := 0 }
  | _ => return w

end Shuffling

open Shuffling in
def shuf (call : Call) : Tool Nat := do
  let (p, w) ← parseInto [.letter 'e' "echo" .none, .letter 'i' "input-range" .required,
    .letter 'n' "head-count" .required, .letter 'o' "output" .required,
    ⟨"random-source", "random-source", .required⟩, .letter 'r' "repeat" .none,
    .letter 'z' "zero-terminated" .none] false 1 call.operands { source := .lines none } addOption
  let w : Wanted ← match w.source, p.has "e" with
    | .numbers .., true => misuse 1 "cannot combine -e and -i options"
    | .numbers .., false => match p.operands with
      | extra :: _ => extraOperand 1 extra
      | [] => pure w
    | _, true => pure { w with source := .words p.operands }
    | _, false => match p.operands with
      | _ :: extra :: _ => extraOperand 1 extra
      | _ => pure { w with source := .lines p.operands.head? }
  Shuffling.write w
  return 0

end PipeShell.Host.Tool
