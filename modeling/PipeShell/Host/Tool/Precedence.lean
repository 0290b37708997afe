import PipeShell.Host.Tool.Collation
import PipeShell.Host.Tool.Options

/-! # The tool `tsort`

Pairs of words say which comes before which, and an order of all words is found that agrees with
them. Words with none before them come first, those found earlier before those found later. Where
words come before each other in a loop, one pair of it is forgotten. -/

namespace PipeShell.Host.Tool

namespace Precedence

/-- A word, and how it stands to others, which are told by their numbers. -/
structure Item where
  name : ByteArray
  /-- How many pairs say that a word not yet written comes before this one. -/
  before : Nat := 0
  /-- Words that come behind this one, last pair first. -/
  after : List Nat := []
  written : Bool := false
  /-- The next word on the path that is followed in search of a loop. -/
  next : Option Nat := none
  deriving Inhabited

/-- All words in the order of their bytes. -/
abbrev Items := Array Item

variable (items : Items)

def isBlank (b : UInt8) : Bool := b == 32 || b == 9 || b == 10

/-- The words of a text, each up to a zero in it. -/
def wordsOf (bytes : List UInt8) : List ByteArray :=
  ((bytes.splitOnP isBlank).filter (!·.isEmpty)).map fun word => ⟨(word.takeWhile (· != 0)).toArray⟩

/-- Words in the order of their bytes, each once. -/
def distinct (words : List ByteArray) : Array ByteArray :=
  let sorted := words.mergeSort fun a b => Collation.bytes a b != .gt
  sorted.foldl (fun found w => if found.back? == some w then found else found.push w) #[]

/-- Finds a word between two places. -/
def find (w : ByteArray) (low high : Nat) : Nat → Nat
  | 0 => low
  | fuel + 1 =>
    if high ≤ low + 1 then low
    else
      let middle := (low + high) / 2
      if Collation.bytes (items.getD middle default).name w == .gt then find w low middle fuel
      else find w middle high fuel

def place (w : ByteArray) : Nat := find items w 0 items.size items.size

/-- Takes up the pairs, last word of a pair behind the first. -/
def relate (items : Items) : List ByteArray → Items
  | first :: second :: rest =>
    let i := place items first
    let j := place items second
    let items := if i == j then items else
      (items.modify j fun t => { t with before := t.before + 1 }).modify i fun t =>
        { t with after := j :: t.after }
    relate items rest
  | _ => items

def ofWords (words : List ByteArray) : Items :=
  relate ((distinct words).map fun name => { name }) words

/-- The words that are ready: none comes before them, and they have not been written. -/
def ready : List Nat :=
  (List.range items.size).filter fun i =>
    let t := items.getD i default
    t.before == 0 && !t.written

/-- Writes the words of a queue and those that become ready. The number bounds how many there are. -/
def writeQueue (items : Items) (out : ByteArray) (queue late : List Nat) : Nat → Items × ByteArray
  | 0 => (items, out)
  | fuel + 1 => match queue, late with
    | [], [] => (items, out)
    | [], late => writeQueue items out late.reverse [] fuel
    | i :: queue, late =>
      let t := items.getD i default
      let out := (out ++ t.name).push 10
      let (items, late) := t.after.foldl (fun ((items, late) : Items × List Nat) j =>
        let left := (items.getD j default).before - 1
        (items.modify j fun t => { t with before := left }, if left == 0 then j :: late else late))
        (items.modify i fun t => { t with written := true }, late)
      writeQueue items out queue late fuel

/-! ## Loops -/

/-- The words on a path, from one word up to another. -/
def path (items : Items) (i stop : Nat) : Nat → List Nat
  | 0 => []
  | fuel + 1 =>
    if i == stop then [i]
    else match (items.getD i default).next with
      | some j => i :: path items j stop fuel
      | none => [i]

/-- Leaves the path that begins with a word. -/
def leave (items : Items) (i : Nat) : Nat → Items
  | 0 => items
  | fuel + 1 =>
    let next := (items.getD i default).next
    let items := items.modify i fun t => { t with next := none }
    match next with
    | some j => leave items j fuel
    | none => items

/-- Follows paths backwards from word to word. A word that comes before the first one of the path is
put in front of it; if it is on the path already, that is a loop. -/
def search (items : Items) (start : Option Nat) : List Nat → Items × Option Nat × Option (List Nat)
  | [] => (items, start, none)
  | k :: rest =>
    let t := items.getD k default
    if t.before == 0 then search items start rest
    else match start with
      | none => search items (some k) rest
      | some first =>
        if !t.after.contains first then search items start rest
        else if t.next.isNone then
          search (items.modify k fun t => { t with next := some first }) (some k) rest
        else
          let loop := path items first k items.size
          let items := leave items first (items.size + 1)
          let items := (items.modify first fun t => { t with before := t.before - 1 }).modify k fun t =>
            { t with after := t.after.erase first }
          (items, none, some loop)

/-- Finds a loop and forgets a pair of it. The number bounds how long the path is. -/
def breakLoop (items : Items) (start : Option Nat) : Nat → Items × List Nat
  | 0 => (items, [])
  | fuel + 1 => match search items start (List.range items.size) with
    | (items, _, some loop) => (items, loop)
    | (items, start, none) => breakLoop items start fuel

/-- Writes all words; loops are told of. The number bounds how many loops there are. -/
def writeAll (source : String) (items : Items) (ok : Bool) : Nat → Tool Bool
  | 0 => return ok
  | fuel + 1 => do
    let (items, out) := writeQueue items .empty (ready items) [] (2 * items.size + 2)
    put out
    if items.all (·.written) then return ok
    warn (quoteName source ++ ": input contains a loop:")
    let (items, loop) := breakLoop items none (items.size + 2)
    for i in loop do warn (ByteText.ofBytes (items.getD i default).name)
    writeAll source items false fuel

end Precedence

open Precedence in
def tsort (call : Call) : Tool Nat := do
  let p ← parse [] false 1 call.operands
  if let _ :: extra :: _ := p.operands then extraOperand 1 extra
  let name := p.operands.headD "-"
  match ← openOperand name with
  | .error e => fail 1 (quoteName name ++ ": " ++ e.message)
  | .ok fd =>
    let (bytes, _) ← readWhole fd
    let words := wordsOf bytes.toList
    if words.length % 2 == 1 then fail 1 (quoteName name ++ ": input contains an odd number of tokens")
    return if ← writeAll name (ofWords words) true (words.length + 1) then 0 else 1

end PipeShell.Host.Tool
