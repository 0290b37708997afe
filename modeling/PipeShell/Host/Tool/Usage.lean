import PipeShell.Host.Script.Pattern
import PipeShell.Host.Tool.Copying
import PipeShell.Host.Tool.Date
import PipeShell.Host.Tool.NameList

/-! # How much room files take

A directory takes as much as all that is in it. What has more than one name is counted once. -/

namespace PipeShell.Host.Tool
namespace Usage

open PipeShell.Host.Number
open Copying (Found inspect)

inductive Following where
  | never | operands | always
  deriving DecidableEq, BEq

/-- Which time of a file is shown. -/
inductive TimeKind where
  | modified | accessed | changed
  deriving DecidableEq, BEq

/-- How much room is taken, and the latest time of what takes it. -/
structure Room where
  bytes : Nat := 0
  inodes : Nat := 0
  latest : Option Moment := none

namespace Room

def add (a b : Room) : Room where
  bytes := a.bytes + b.bytes
  inodes := a.inodes + b.inodes
  latest := match a.latest, b.latest with
    | some x, some y => some (max x y)
    | x, y => x.or y

end Room

structure Wanted where
  /-- Whether what is no directory is shown too. -/
  showsAll : Bool
  /-- Whether the bytes of files are counted, and not their room. -/
  byContent : Bool
  countsNames : Bool
  /-- Whether files are numbered and not measured. -/
  byInodes : Bool
  /-- Whether a directory does not include those in it. -/
  separates : Bool
  depth : Option Nat
  threshold : Int
  following : Following
  /-- Whether all nodes that have been counted are remembered, and not those with many names alone. -/
  remembersAll : Bool
  excluded : List Script.Pattern
  /-- The time that is shown, in a form. -/
  time : Option (TimeKind × String)
  zone : Zone
  human : Human
  stop : Char

/-- What has been counted. -/
structure Progress where
  seen : List Inode := []
  total : Room := {}
  ok : Bool := true

abbrev Work := StateT Progress Tool

def show_ (w : Wanted) (a : Room) (path : String) : Tool Unit := do
  let size := w.human.shown (if w.byInodes then a.inodes else a.bytes)
  let time := match w.time, a.latest with
    | some (_, form), some moment => "\t" ++ formed w.zone form moment
    | _, _ => ""
  print ((size ++ time ++ "\t" ++ path).push w.stop)

/-- Whether a pattern fits a path or what stands behind one of its slashes. -/
def isExcluded (w : Wanted) (path : String) : Bool :=
  let rec ends : List Char → List (List Char)
    | '/' :: c :: rest => if c == '/' then ends (c :: rest) else (c :: rest) :: ends (c :: rest)
    | _ :: rest => ends rest
    | [] => []
  w.excluded.any fun p => (path.toList :: ends path.toList).any p.matchesText

/-- Whether a threshold lets an amount through: from it upwards, or down if it is below zero. -/
def passes (threshold : Int) (n : Nat) : Bool :=
  if threshold < 0 then (n : Int) ≤ -threshold else threshold ≤ n

/-- What a node takes by itself. -/
def roomOf (w : Wanted) (n : Node) : Room where
  bytes := if w.byContent then n.size else n.blocks * 512
  inodes := 1
  latest := some (match w.time with
    | some (.accessed, _) => n.accessed
    | some (.changed, _) => n.changed
    | _ => n.modified)

/-- What a node adds to the directory that it is in: by itself, and by what is below it. -/
structure Share where
  own : Room := {}
  below : Room := {}

/-- Counts what a path leads to, and shows it. The number bounds how deep that is. -/
def count (w : Wanted) (level : Nat) (above : List Inode) (path : String) : Nat → Work Share
  | 0 => return {}
  | fuel + 1 => do
    if isExcluded w path then return {}
    let follows := w.following == .always || (w.following == .operands && level == 0)
    match ← inspect path follows with
    | .error e =>
      -- A link that leads nowhere is there, so there is no reason to name.
      if follows && e = .notFound && (← inspect path false).isOk then
        warn ("cannot access " ++ shellQuoted path)
      else warnOf ("cannot access " ++ shellQuoted path) e
      modify fun (s : Progress) => { s with ok := false }
      return {}
    | .ok found =>
      let remembers := !w.countsNames && (w.remembersAll || (!found.isDirectory && 1 < found.links))
      if remembers && (← get).seen.contains found.inode then return {}
      if found.isDirectory && above.contains found.inode then return {}
      if remembers then modify fun (s : Progress) => { s with seen := found.inode :: s.seen }
      let entries ← if found.isDirectory then files fun fs _ => fs.entries found.inode else pure []
      let inner ← entries.foldlM
        (fun (all : Share) (name, _) => do
          let share ← count w (level + 1) (found.inode :: above) (inDirectory path name) fuel
          return { own := all.own.add share.own, below := all.below.add share.below })
        {}
      let own := roomOf w found.node
      let shown := own.add (if w.separates then inner.own else inner.own.add inner.below)
      modify fun (s : Progress) => { s with total := s.total.add own }
      let isListed := (found.isDirectory || w.showsAll) && w.depth.all (level ≤ ·)
      if (isListed || level == 0) && passes w.threshold (if w.byInodes then shown.inodes else shown.bytes) then
        show_ w shown path
      return {
        own := if w.separates && found.isDirectory then {} else own
        below := inner.own.add inner.below }

def countOperand (w : Wanted) (path : String) : Work Unit := do
  let _ ← count w 0 [] (trimmed path) Removal.maxDepth

/-! ## Options -/

structure Choice where
  human : Option Human := none
  byContent : Bool := false
  depth : Option Nat := none
  threshold : Int := 0
  following : Following := .never
  excluded : List Script.Pattern := []
  time : Option TimeKind := none
  ok : Bool := true

def timeKinds : List (String × TimeKind) := [("atime", .accessed), ("access", .accessed),
  ("use", .accessed), ("ctime", .changed), ("status", .changed)]

def timeForms : List (String × String) := [("full-iso", "%Y-%m-%d %H:%M:%S.%N %z"),
  ("long-iso", "%Y-%m-%d %H:%M"), ("iso", "%Y-%m-%d")]

def switches : List Switch := Switch.ofLetters "0abd:chHklmsxDLPSX:" ++ [
  ⟨"a", "all", .none⟩, ⟨"content", "apparent-size", .none⟩, .letter 'B' "" .required,
  ⟨"block", "block-size", .required⟩, ⟨"b", "bytes", .none⟩, ⟨"l", "count-links", .none⟩,
  ⟨"L", "dereference", .none⟩, ⟨"D", "dereference-args", .none⟩, ⟨"exclude", "exclude", .required⟩,
  ⟨"X", "exclude-from", .required⟩, ⟨"files", "files0-from", .required⟩, ⟨"h", "human-readable", .none⟩,
  ⟨"inodes", "inodes", .none⟩, ⟨"si", "si", .none⟩, ⟨"d", "max-depth", .required⟩, ⟨"0", "null", .none⟩,
  ⟨"P", "no-dereference", .none⟩, ⟨"x", "one-file-system", .none⟩, ⟨"S", "separate-dirs", .none⟩,
  ⟨"s", "summarize", .none⟩, ⟨"c", "total", .none⟩, .letter 't' "" .required,
  ⟨"threshold", "threshold", .required⟩, ⟨"time", "time", .optional⟩,
  ⟨"time-style", "time-style", .required⟩]

def patternOf (text : String) : Script.Pattern := text.toList.map (·, false)

/-- Adds the patterns in a file, one in a line; blanks at the end of a line are left out. -/
def addPatterns (c : Choice) (path : String) : Tool Choice := do
  match ← openOperand path with
  | .error e =>
    warn (quoteName path ++ ": " ++ e.message)
    return { c with ok := false }
  | .ok fd =>
    let (bytes, failure) ← readWhole fd
    closeOperand fd
    if let some e := failure then
      warn (quoteName path ++ ": " ++ e.message)
      return { c with ok := false }
    let lines := (linesOf 10 bytes).1.toList.map fun line =>
      ((ByteText.ofBytes line).toList.reverse.dropWhile Floating.isSpace).reverse
    return { c with excluded := c.excluded ++ (lines.filter (!·.isEmpty)).map fun cs => cs.map (·, false) }

def thresholdOf (option text : String) : Tool Int := do
  match Amount.readIn 0 true "kKmMGTPEZY0" text with
  | .ok 0 =>
    if text.startsWith "-" then fail 1 "invalid --threshold argument '-0'"
    return 0
  | .ok n => return n
  | .error mistake => refuseArgument 1 option text mistake

def blockOf (option text : String) : Tool Human :=
  match humanOf text with
  | .ok human => return human
  | .error mistake => refuseArgument 1 option text mistake

def Choice.add (c : Choice) (option : Given) : Tool Choice := do
  let (key, value) := option
  let word := value.getD ""
  match key with
  | "b" => return { c with byContent := true, human := some { block := 1 } }
  | "content" => return { c with byContent := true }
  | "k" => return { c with human := some { block := 1024 } }
  | "m" => return { c with human := some { block := 1024 * 1024 } }
  | "h" => return { c with human := some { scales := true, binary := true, unit := true, block := 1 } }
  | "si" => return { c with human := some { scales := true, unit := true, block := 1 } }
  | "B" => return { c with human := some (← blockOf "-B" word) }
  | "block" => return { c with human := some (← blockOf "--block-size" word) }
  | "d" => match Amount.readIn 0 true "" word with
    | .ok n => return { c with depth := some (if n < 0 then 2 ^ 64 else n.toNat) }
    | .error _ =>
      warn ("invalid maximum depth " ++ quote word)
      return { c with ok := false }
  | "t" => return { c with threshold := ← thresholdOf "-t" word }
  | "threshold" => return { c with threshold := ← thresholdOf "--threshold" word }
  | "H" | "D" => return { c with following := .operands }
  | "L" => return { c with following := .always }
  | "P" => return { c with following := .never }
  | "exclude" => return { c with excluded := c.excluded ++ [patternOf word] }
  | "X" => addPatterns c word
  | "time" => match value with
    | none => return { c with time := some .modified }
    | some word => return { c with time := some (← choose "--time" timeKinds word) }
  | _ => return c

/-- The form of times, by a name that an option or the environment gives. -/
def timeForm (call : Call) (style : Option String) : Tool String := do
  let style := match style, valueIn call.environment "TIME_STYLE" with
    | some style, _ => style
    | none, none | none, some "locale" => "long-iso"
    | none, some said =>
      if said.startsWith "+" then (said.splitOn "\n").headD "" else withoutMark said said.length
  if style.startsWith "+" then return String.ofList (style.toList.drop 1)
  choose "time style" timeForms style
where
  withoutMark (style : String) : Nat → String
    | 0 => style
    | fuel + 1 => if style.startsWith "posix-" then withoutMark (String.ofList (style.toList.drop 6)) fuel else style

end Usage

open Usage in
def du (call : Call) : Tool Nat := do
  let (p, c) ← parseInto switches false 1 call.operands {} Choice.add
  if !c.ok then tryHelp 1
  let sums := p.has "s"
  if p.has "a" && sums then misuse 1 "cannot both summarize and show all entries"
  match sums, c.depth with
  | true, some 0 => warn "warning: summarizing is the same as using --max-depth=0"
  | true, some n => misuse 1 s!"warning: summarizing conflicts with --max-depth={n}"
  | _, _ => pure ()
  let byInodes := p.has "inodes"
  if byInodes && c.byContent then
    warn "warning: options --apparent-size and -b are ineffective with --inodes"
  let time ← c.time.mapM fun kind => return (kind, ← timeForm call (p.last? "time-style"))
  let list ← (p.last? "files").mapM (NameList.read · p.operands)
  let human := c.human.getD (environmentBlocks call.environment "DU_BLOCK_SIZE").1
  let w : Wanted := {
    showsAll := p.has "a", byContent := c.byContent, countsNames := p.has "l", byInodes
    separates := p.has "S", depth := if sums then some 0 else c.depth, threshold := c.threshold
    following := c.following
    remembersAll := list.isSome || 1 < p.operands.length || c.following == .always
    excluded := c.excluded, time, zone := zoneOf call.environment
    human := if byInodes then { human with block := 1 } else human
    stop := if p.has "0" then '\x00' else '\n' }
  let names := match list with
    | some list => list.names
    | none => if p.operands.isEmpty then ["."] else p.operands
  let work : Work Unit := do
    for (name, number) in names.zipIdx 1 do
      let isUsable ← match list with
        | some list => list.accepts name number
        | none =>
          if name.isEmpty then warn "invalid zero-length file name"
          pure !name.isEmpty
      if isUsable then countOperand w name
      else modify fun (s : Progress) => { s with ok := false }
  let (_, done) ← work.run {}
  if let some list := list then
    if let some e := list.failure then
      warn (quoteName list.source ++ ": read error: " ++ e.message)
      return 1
  if p.has "c" then show_ w done.total "total"
  return codeOf done.ok

end PipeShell.Host.Tool
