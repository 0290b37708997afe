import PipeShell.Host.Tool.Amount
import PipeShell.Host.Tool.Options

/-! # File systems

How much room a file system has and how much of it is taken. All files of a host lie in one. -/

namespace PipeShell.Host.Tool
namespace Volumes

open PipeShell.Host.Number

/-- What is known of a file system; sizes are in bytes. -/
structure Volume where
  source : String := "overlay"
  type : String := "overlay"
  target : String := "/"
  size : Nat := 2 ^ 38
  used : Nat
  inodes : Nat := 2 ^ 24
  usedInodes : Nat

/-- The file system of a host. -/
def Volume.ofFiles (fs : FileSystem) : Volume where
  used := (fs.nodes.toList.map fun n => match n.body with
    | .file bytes => (bytes.size + 4095) / 4096 * 4096
    | _ => 0).foldl (· + ·) (2 ^ 35)
  usedInodes := fs.nodes.size

inductive Field where
  | source | type | inodes | usedInodes | freeInodes | inodeShare | size | used | free | share | file | target
  deriving DecidableEq, BEq

namespace Field

/-- The fields by name, in the order in which they stand if all are wanted. -/
def named : List (String × Field) := [("source", .source), ("fstype", .type), ("itotal", .inodes),
  ("iused", .usedInodes), ("iavail", .freeInodes), ("ipcent", .inodeShare), ("size", .size), ("used", .used),
  ("avail", .free), ("pcent", .share), ("file", .file), ("target", .target)]

def title : Field → String
  | .source => "Filesystem"
  | .type => "Type"
  | .inodes => "Inodes"
  | .usedInodes => "IUsed"
  | .freeInodes => "IFree"
  | .inodeShare => "IUse%"
  | .size => "blocks"
  | .used => "Used"
  | .free => "Available"
  | .share => "Use%"
  | .file => "File"
  | .target => "Mounted on"

def isText : Field → Bool
  | .source | .type | .file | .target => true
  | _ => false

/-- The least width of a column. -/
def leastWidth : Field → Nat
  | .source => 14
  | .type | .share | .inodeShare => 4
  | .file | .target => 0
  | _ => 5

end Field

inductive Manner where
  | usual | inodes | scaled | portable | chosen
  deriving DecidableEq, BEq

structure Wanted where
  manner : Manner
  fields : List Field
  human : Human

/-- The size of a block as titles name it. -/
def blockTitle (block : Nat) : String :=
  let rec powers (base n : Nat) : Nat → Nat
    | 0 => 0
    | fuel + 1 => if base ≤ n && n % base == 0 then powers base (n / base) fuel + 1 else 0
  let binary := powers 1000 block 20 < powers 1024 block 20
  let human : Human := { scales := true, binary, unit := true, byte := !binary, block := 1 }
  let text := human.shown block
  match text.splitOn ".0" with
  | [whole, unit] => whole ++ unit
  | _ => text

def title (w : Wanted) (f : Field) : String :=
  match f, w.manner with
  | .size, .portable => toString w.human.block ++ "-blocks"
  | .size, .scaled => "Size"
  | .size, _ => if w.human.scales then "Size" else blockTitle w.human.block ++ "-blocks"
  | .free, .scaled | .free, .chosen => "Avail"
  | .share, .portable => "Capacity"
  | f, _ => f.title

/-- A part as a share of a whole, rounded up. -/
def percent (part whole : Nat) : String :=
  if whole == 0 then "-" else toString ((part * 100 + whole - 1) / whole) ++ "%"

def cell (w : Wanted) (v : Volume) (file : String) : Field → String
  | .source => v.source
  | .type => v.type
  | .target => v.target
  | .file => file
  | .size => w.human.shown v.size
  | .used => w.human.shown v.used
  | .free => w.human.shown (v.size - v.used)
  | .share => percent v.used v.size
  | .inodes => toString v.inodes
  | .usedInodes => toString v.usedInodes
  | .freeInodes => toString (v.inodes - v.usedInodes)
  | .inodeShare => percent v.usedInodes v.inodes

/-- Rows in columns; a text stands at the left of its column, except that nothing follows the last. -/
def table (fields : List Field) (rows : List (List String)) : List String :=
  let widths := fields.zipIdx.map fun (f, i) => (rows.map fun row => (row.getD i "").length).foldl max f.leastWidth
  rows.map fun row =>
    let cells := (row.zip (fields.zip widths)).zipIdx.map fun ((text, field, width), i) =>
      let gap := String.ofList (List.replicate (width - text.length) ' ')
      if !field.isText then gap ++ text else if i + 1 == fields.length then text else text ++ gap
    " ".intercalate cells

/-! ## Options -/

def switches : List Switch := Switch.ofLetters "aB:iF:hHklmPTt:vx:" ++ [
  ⟨"a", "all", .none⟩, ⟨"block", "block-size", .required⟩, ⟨"i", "inodes", .none⟩,
  ⟨"h", "human-readable", .none⟩, ⟨"H", "si", .none⟩, ⟨"l", "local", .none⟩, ⟨"output", "output", .optional⟩,
  ⟨"P", "portability", .none⟩, ⟨"T", "print-type", .none⟩, ⟨"sync", "sync", .none⟩,
  ⟨"no-sync", "no-sync", .none⟩, ⟨"total", "total", .none⟩, ⟨"t", "type", .required⟩,
  ⟨"x", "exclude-type", .required⟩]

/-- What options choose, each of which may change what those before it have chosen. -/
structure Choice where
  human : Option Human := none
  manner : Manner := .usual
  type : Bool := false
  fields : List Field := []

def conflict (option : String) : Tool Unit :=
  misuse 1 ("options " ++ option ++ " and --output are mutually exclusive")

def blockOf (option text : String) : Tool Human :=
  match humanOf text with
  | .ok human => return human
  | .error mistake => refuseArgument 1 option text mistake

/-- Adds the fields that a list names. -/
def addFields (c : Choice) (text : String) : Tool Choice :=
  (text.splitOn ",").foldlM
    (fun (c : Choice) name => do
      match Field.named.lookup name with
      | none => misuse 1 ("option --output: field " ++ quote name ++ " unknown")
      | some f =>
        if c.fields.contains f then misuse 1 ("option --output: field " ++ quote name ++ " used more than once")
        return { c with fields := c.fields ++ [f] })
    c

def Choice.add (c : Choice) (option : Given) : Tool Choice := do
  let word := option.2.getD ""
  let isChosen := c.manner == .chosen
  match option.1 with
  | "B" => return { c with human := some (← blockOf "-B" word) }
  | "block" => return { c with human := some (← blockOf "--block-size" word) }
  | "h" => return { c with human := some { scales := true, binary := true, unit := true, block := 1 } }
  | "H" => return { c with human := some { scales := true, unit := true, block := 1 } }
  | "k" => return { c with human := some { block := 1024 } }
  | "m" => return { c with human := some { block := 1024 * 1024 } }
  | "i" =>
    if isChosen then conflict "-i"
    return { c with manner := .inodes }
  | "P" =>
    if isChosen then conflict "-P"
    return { c with manner := .portable }
  | "T" =>
    if isChosen then conflict "-T"
    return { c with type := true }
  | "output" =>
    if c.manner == .inodes then conflict "-i"
    if c.manner == .portable then conflict "-P"
    if c.type then conflict "-T"
    match option.2 with
    | none => return { c with manner := .chosen }
    | some word => addFields { c with manner := .chosen } word
  | _ => return c

def fieldsFor (c : Choice) : List Field :=
  if c.manner == .chosen then (if c.fields.isEmpty then Field.named.map (·.2) else c.fields)
  else
    let numbers : List Field := if c.manner == .inodes then [.inodes, .usedInodes, .freeInodes, .inodeShare]
      else [.size, .used, .free, .share]
    [.source] ++ (if c.type then [.type] else []) ++ numbers ++ [.target]

end Volumes

open Volumes in
def df (call : Call) : Tool Nat := do
  let (p, c) ← parseInto switches false 1 call.operands {} Choice.add
  let wordsOf (key : String) : List String := p.given.filterMap fun (k, word) => if k == key then word else none
  let (types, excluded) := (wordsOf "t", wordsOf "x")
  let both := types.filter excluded.contains
  for type in both do
    warn ("file system type " ++ quote type ++ " both selected and excluded")
  if !both.isEmpty then return 1
  let human := c.human.getD (environmentBlocks call.environment "DF_BLOCK_SIZE").1
  let manner := if c.manner == .usual && human.scales then .scaled else c.manner
  let w : Wanted := { manner, fields := fieldsFor c, human }
  let volume ← files fun fs _ => Volume.ofFiles fs
  let isListed := (types.isEmpty || types.contains volume.type) && !excluded.contains volume.type
  let mut names : List String := []
  for name in p.operands do
    match ← files fun fs cwd => fs.resolve cwd name true with
    | .ok _ => names := names ++ [name]
    | .error e => warn (quoteName name ++ ": " ++ e.message)
  let ok := names.length == p.operands.length
  let shown := if !isListed then [] else if p.operands.isEmpty then ["-"] else names
  if shown.isEmpty then
    if ok then fail 1 "no file systems processed"
    return 1
  let rows := shown.map fun name => w.fields.map (cell w volume name)
  let sum := { volume with source := "total", target := "-", type := "-" }
  let total := if p.has "total" then [w.fields.map fun f =>
    if f == .target && w.fields.contains .source then "-" else cell w sum "-" f] else []
  for line in table w.fields (w.fields.map (title w) :: rows ++ total) do print (line ++ "\n")
  return if ok then 0 else 1

end PipeShell.Host.Tool
