import PipeShell.Host.Tool.Chance
import PipeShell.Host.Tool.Copying

/-! # Erasing files

What a file holds is written over, several times, with chance bytes and with patterns; then the file
may be removed, after its name has been made shorter and shorter. -/

namespace PipeShell.Host.Tool
namespace Erasing

/-- What a file is written over with. -/
inductive Pass where
  | chance
  /-- Twelve bits again and again; the next bit says whether the first of each block is turned over. -/
  | pattern (bits : Nat)
  deriving DecidableEq

namespace Pass

/-- The bytes of a pattern. -/
def byte (bits i : Nat) : UInt8 :=
  let word := bits % 4096 * 4096 + bits % 4096
  let b := UInt8.ofNat (word / 256 ^ (2 - i % 3))
  if 4096 ≤ bits && i % 512 == 0 then b ^^^ 128 else b

/-- A pattern is called by its first bytes. -/
def name : Pass → String
  | .chance => "random"
  | .pattern bits => String.ofList ((List.range 3).flatMap fun i =>
    let n := (byte bits i).toNat
    [Nat.digitChar (n / 16), Nat.digitChar (n % 16)])

end Pass

/-- Passes that belong together: so many of chance, or patterns. -/
inductive Group where
  | chance (n : Nat)
  | patterns (all : List Nat)

def groups : List Group := [
  .chance 2, .patterns [0, 0xFFF], .patterns [0x555, 0xAAA], .chance 1,
  .patterns [0x249, 0x492, 0x6DB, 0x924, 0xB6D, 0xDB6],
  .patterns [0x111, 0x222, 0x333, 0x444, 0x666, 0x777, 0x888, 0x999, 0xBBB, 0xCCC, 0xDDD, 0xEEE],
  .chance 1, .patterns [0x1000, 0x1249, 0x1492, 0x16DB, 0x1924, 0x1B6D, 0x1DB6, 0x1FFF],
  .patterns [0x1111, 0x1222, 0x1333, 0x1444, 0x1555, 0x1666, 0x1777, 0x1888, 0x1999, 0x1AAA, 0x1BBB,
    0x1CCC, 0x1DDD, 0x1EEE],
  .chance 1]

/-- A number below another one; the last choice is drawn from an endless source. -/
def draw (choices : Nat) (c : Chance) : Nat × Chance := (c.draw choices).getD (0, c)

/-- Some of a list of patterns, in their order. -/
def some_ (wanted : Nat) (c : Chance) : List Nat → List Nat × Chance
  | [] => ([], c)
  | p :: rest =>
    if wanted == 0 then ([], c)
    else
      let (n, c) := if wanted == rest.length + 1 then (0, c) else draw (rest.length + 1) c
      if n < wanted then
        let (chosen, c) := some_ (wanted - 1) c rest
        (p :: chosen, c)
      else some_ wanted c rest

/-- The patterns among so many passes; all others are of chance. The last number bounds how many
groups there are. -/
def patternsFor (passes : Nat) (c : Chance) : List Group → Nat → List Nat × Chance
  | _, 0 => ([], c)
  | [], fuel + 1 => patternsFor passes c groups fuel
  | .chance k :: rest, fuel + 1 =>
    if passes ≤ k then ([], c) else patternsFor (passes - k) c rest fuel
  | .patterns all :: rest, fuel + 1 =>
    if all.length ≤ passes then
      let (more, c) := patternsFor (passes - all.length) c rest fuel
      (all ++ more, c)
    else if passes < 2 || 3 * passes < all.length then ([], c)
    else some_ passes c all

/-- Spreads passes of chance evenly among patterns, which are drawn in any order. -/
def spread (count few : Nat) (sum : Int) (patterns : List Nat) (c : Chance) : Nat → List Pass × Chance
  | 0 => ([], c)
  | left + 1 =>
    if sum ≤ few then
      let turned := patterns.drop 1 ++ patterns.take 1
      let (rest, c) := spread count few (sum + (count - 1 : Nat) - few) turned c left
      (.chance :: rest, c)
    else
      let (i, c) := draw patterns.length c
      -- The first takes the place of the one that is drawn.
      let others := (patterns.set i (patterns.headD 0)).drop 1
      let (rest, c) := spread count few (sum - few) others c left
      (.pattern (patterns.getD i 0) :: rest, c)

/-- The passes over a file, and what is left of chance. -/
def passesFor (count : Nat) (c : Chance) : List Pass × Chance :=
  if count == 0 then ([], c)
  else
    let (patterns, c) := patternsFor count c groups (count + groups.length + 1)
    let few := count - patterns.length - 1
    spread count few few patterns c count

/-- Whether and how a file is removed. -/
inductive Removing where
  | never | atOnce
  /-- Its name is made shorter first; each time the directory may be put on the disk. -/
  | renamed (syncs : Bool)
  deriving DecidableEq, BEq

structure Wanted where
  passes : Nat := 3
  zeros : Bool := false
  size : Option Nat := none
  exact : Bool := false
  forces : Bool := false
  verbose : Bool := false
  removing : Removing := .never
  /-- The file that chance bytes come from. -/
  source : Option String := none

/-- Chance bytes, as many as are wanted. -/
def chanceBytes (w : Wanted) (c : Chance) (size : Nat) : Tool (ByteArray × Chance) := do
  let bytes : List UInt8 := (List.range size).filterMap fun i => c.byte? (c.used + i)
  if bytes.length < size then fail 1 (quote (w.source.getD "") ++ ": end of file")
  return (⟨bytes.toArray⟩, { c with used := c.used + size })

/-- Writes over the first bytes of a file, pass by pass, and says so if there is a number of passes. -/
def overwrite (w : Wanted) (name : String) (fd size : Nat) (shown : Option Nat) (c : Chance) :
    List (Pass × Nat) → Tool (Bool × Chance)
  | [] => return (true, c)
  | (pass, number) :: rest => do
    if let some count := shown then warn (quoteName name ++ s!": pass {number}/{count} ({pass.name})...")
    let (bytes, c) ← match pass with
      | .chance => chanceBytes w c size
      | .pattern bits => pure (⟨((List.range size).map (Pass.byte bits)).toArray⟩, c)
    let _ ← act (Act.seek fd 0 0)
    match ← act (Act.write fd bytes) with
    | .error e =>
      warn (quoteName name ++ ": error writing at offset 0: " ++ e.message)
      return (false, c)
    | .ok () => overwrite w name fd size shown c rest

def blockSize : Nat := 4096

/-- Writes over an open file. -/
def erase (w : Wanted) (name : String) (fd : Nat) (c : Chance) : Tool (Bool × Chance) := do
  let place ← act (Act.nodeAt? fd)
  let node ← files fun fs _ => place.bind fun (i, _) => fs.node? i
  match node.map fun n => (n.body, n.size) with
  | none | some (.fifo _, _) =>
    warn (quoteName name ++ ": invalid file type")
    return (false, c)
  | some (body, there) =>
    if !Copying.holdsBytes body then return (true, c)
    let size := w.size.getD (if w.exact then there else (there + blockSize - 1) / blockSize * blockSize)
    let first := if (w.size.isSome || !w.exact) && there < min blockSize size then there else 0
    let (passes, c) := passesFor w.passes c
    let passes := (passes ++ (if w.zeros then [Pass.pattern 0] else [])).zipIdx 1
    let (ok, c) ← if first == 0 then pure (true, c) else overwrite w name fd first none c passes
    let shown := if w.verbose then some passes.length else none
    let (done, c) ← if size == 0 then pure (true, c) else overwrite w name fd size shown c passes
    if w.removing != .never then
      let _ ← changeFiles fun fs _ => .ok (match place with
        | some (i, _) => fs.setBody i (.file .empty)
        | none => fs)
    return (ok && done, c)

/-! ## Names -/

def nameLetters : List Char := "0123456789abcdefghijklmnopqrstuvwxyzABCDEFGHIJKLMNOPQRSTUVWXYZ_.".toList

/-- The next name of the same length, its letters in reverse. -/
def nextName : List Char → Option (List Char)
  | [] => none
  | c :: cs => match (nameLetters.dropWhile (· != c)).drop 1 with
    | next :: _ => some (next :: cs)
    | [] => (nextName cs).map ('0' :: ·)

/-- Gives a file the first free name in a directory from one on. The number bounds how many are
tried. -/
def rename (directory path : String) (name : List Char) : Nat → Tool (Option String)
  | 0 => return none
  | fuel + 1 => do
    let new := directory ++ String.ofList name.reverse
    match ← changeFiles fun fs cwd => Copying.renameFree fs cwd path new with
    | .ok () => return some new
    | .error e =>
      if e != .fileExists then return none
      match nextName name with
      | none => return none
      | some name => rename directory path name fuel

/-- Gives a file shorter and shorter names. -/
def shorten (w : Wanted) (directory path shown : String) : Nat → Tool String
  | 0 => return path
  | length + 1 => do
    match ← rename directory path (List.replicate (length + 1) '0') (64 * 64 * 64) with
    | none => shorten w directory path shown length
    | some new =>
      if w.verbose then warn (quoteName shown ++ ": renamed to " ++ new)
      shorten w directory new new length

def remove (w : Wanted) (name : String) : Tool Bool := do
  if w.verbose then warn (quoteName name ++ ": removing")
  let base := Copying.Entry.name <$> (← Copying.entry? name)
  let length := (base.getD (nameFor name)).length
  let bare := withoutSlashes name
  let directory := String.ofList (bare.toList.take (bare.length - length))
  let last ← if w.removing matches .renamed _ then shorten w directory name name length else pure name
  match ← changeFiles fun fs cwd => fs.removeFile cwd last with
  | .error e => report (quoteName name ++ ": failed to remove") (.error e)
  | .ok () =>
    if w.verbose then warn (quoteName name ++ ": removed")
    return true

def eraseOperand (w : Wanted) (name : String) (c : Chance) : Tool (Bool × Chance) := do
  if name == "-" then return ← erase w name 1 c
  match ← act (Act.openFile name { write := true }) with
  | .error e => return (← report (quoteName name ++ ": failed to open for writing") (.error e), c)
  | .ok fd =>
    let (ok, c) ← erase w name fd c
    act (Act.close fd)
    if ok && w.removing != .never then return (← remove w name, c)
    return (ok, c)

/-! ## Options -/

def removings : List (String × Removing) := [("unlink", .atOnce), ("wipe", .renamed false),
  ("wipesync", .renamed true)]

def Wanted.add (w : Wanted) (option : Given) : Tool Wanted := do
  let word := option.2.getD ""
  match option.1 with
  | "f" => return { w with forces := true }
  | "n" =>
    let passes ← amountWithin false "" 0 (2 ^ 62 - 1) "invalid number of passes" word
    return { w with passes := passes.toNat }
  | "s" =>
    let refuse (why : Option Errno) : Tool Wanted := refuseAmount 1 "invalid file size" word why
    match Amount.readIn 0 false "cbBkKMGTPEZY0" word with
    | .ok n => if 2 ^ 63 ≤ n then refuse (some valueTooLarge) else return { w with size := some n.toNat }
    | .error .tooLarge => refuse (some valueTooLarge)
    | .error _ => refuse none
  | "random-source" =>
    if w.source.any (· != word) then fail 1 "multiple random sources specified"
    return { w with source := some word }
  | "u" => return { w with removing := .renamed true }
  | "remove" => match option.2 with
    | none => return { w with removing := .renamed true }
    | some word => return { w with removing := ← choose "--remove" removings word }
  | "v" => return { w with verbose := true }
  | "x" => return { w with exact := true }
  | "z" => return { w with zeros := true }
  | _ => return w

end Erasing

open Erasing in
def shred (call : Call) : Tool Nat := do
  let (p, w) ← parseInto [.letter 'f' "force" .none, .letter 'n' "iterations" .required, .letter 's' "size" .required,
    ⟨"random-source", "random-source", .required⟩, .letter 'u' "" .none, ⟨"remove", "remove", .optional⟩,
    .letter 'v' "verbose" .none, .letter 'x' "exact" .none, .letter 'z' "zero" .none] false 1 call.operands
    {} Erasing.Wanted.add
  if p.operands.isEmpty then misuse 1 "missing file operand"
  let c : Chance ← match w.source with
    | none => Chance.ofHost
    | some path => match ← act (Act.openFile path { read := true }) with
      | .error e => fail 1 (quoteName path ++ ": " ++ e.message)
      | .ok fd =>
        let isEndless ← files fun fs cwd => match fs.resolve cwd path true with
          | .ok i => (fs.body? i matches some (.device _))
          | .error _ => false
        if isEndless then
          act (Act.close fd)
          Chance.ofHost
        else
          let (bytes, _) ← readWhole fd
          act (Act.close fd)
          pure (.ofBytes bytes)
  let step (state : Bool × Chance) (name : String) : Tool (Bool × Chance) := do
    let (ok, c) ← eraseOperand w name state.2
    return (state.1 && ok, c)
  let (ok, _) ← p.operands.foldlM step (true, c)
  return codeOf ok

end PipeShell.Host.Tool
