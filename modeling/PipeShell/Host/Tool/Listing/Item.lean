import PipeShell.Host.Accounts
import PipeShell.Host.Number.Human
import PipeShell.Host.Script.Pattern
import PipeShell.Host.Tool.Copying
import PipeShell.Host.Tool.Date
import PipeShell.Text.Width

/-! # What is listed

A file is shown by its name, perhaps with a mark behind it and with numbers in front, and perhaps
with all that is known of it. -/

namespace PipeShell.Host.Tool
namespace Listing

open PipeShell.Host.Number

/-! ## What is wanted -/

inductive Format where
  | lines | columns | rows | commas | long
  deriving DecidableEq

inductive Order where
  | none | name | time | size | extension | version | width
  deriving DecidableEq

/-- Which marks stand behind names. -/
inductive Marks where
  | none | slash | fileType | classify
  deriving DecidableEq

/-- Which links are taken for what they lead to. -/
inductive Following where
  | never
  /-- Operands that lead to a directory. -/
  | directories
  | operands | always
  deriving DecidableEq

/-- Which time of a file is meant. -/
inductive TimeKind where
  | modified | changed | accessed | born
  deriving DecidableEq, BEq

structure Wanted where
  encoding : Encoding
  format : Format
  order : Order
  reversed : Bool
  directoriesFirst : Bool
  style : NameStyle
  /-- Whether what cannot be shown becomes a question mark. -/
  hidesControls : Bool
  marks : Marks
  following : Following
  /-- Whether names with a dot in front are shown, and whether `.` and `..` are too. -/
  showsHidden : Bool
  showsDots : Bool
  ignored : List Script.Pattern
  /-- Patterns of names that are not shown unless hidden ones are. -/
  hidden : List Script.Pattern
  /-- Directories are shown like files. -/
  asFiles : Bool
  recursive : Bool
  inodes : Bool
  blocks : Bool
  colors : Bool
  owner : Bool
  group : Bool
  author : Bool
  context : Bool
  /-- Owners and groups are shown as numbers. -/
  numeric : Bool
  time : TimeKind
  /-- The forms of times that are long ago or to come, and of recent ones. -/
  timeForms : String × String
  zone : Zone
  now : Moment
  /-- How room and sizes are shown. -/
  room : Human
  size : Human
  stop : Char
  /-- How wide a line may be; zero if it may have any width. -/
  width : Nat
  tab : Nat

/-! ## Files -/

/-- A name and what it stands for; nothing is known of one that cannot be looked at. -/
structure Item where
  name : String
  found : Option Copying.Found
  /-- Whether it is a directory or a link that leads to one. -/
  leads : Bool := false
  deriving Inhabited

namespace Item

def node (i : Item) : Option Node := i.found.map (·.node)

def body (i : Item) : Option Body := i.node.map (·.body)

def isDirectory (i : Item) : Bool := i.found.any (·.isDirectory)

def mode (i : Item) : Nat := (i.node.map (·.mode)).getD 0

def size (i : Item) : Nat := (i.node.map (·.size)).getD 0

/-- How much room a file takes, in bytes. -/
def room (i : Item) : Nat := (i.node.map (·.blocks)).getD 0 * 512

def time (kind : TimeKind) (i : Item) : Moment :=
  match i.node with
  | none => 0
  | some n => match kind with
    | .modified => n.modified
    | .changed => n.changed
    | .accessed => n.accessed
    | .born => n.born

def extension (i : Item) : String :=
  let cs := i.name.toList
  let back := cs.reverse.takeWhile (· != '.')
  if back.length == cs.length then "" else "." ++ String.ofList back.reverse

end Item

/-! ## Names -/

/-- Characters that are quoted besides. -/
def quotedBesides (w : Wanted) : List Char :=
  (if w.style == .escape then [' '] else []) ++ (match w.marks with
    | .fileType => "=>@|".toList
    | .classify => "*=>@|".toList
    | _ => [])

/-- A name in its style, without what cannot be shown if that is hidden. -/
def nameBesides (w : Wanted) (also : List Char) (name : String) : String :=
  let text := styled w.encoding w.style also name
  if w.hidesControls && [.literal, .shell, .shellAlways].contains w.style then
    String.join ((w.encoding.glyphs text).map fun g => if g.isShown then g.text else "?")
  else text

def showName (w : Wanted) (name : String) : String := nameBesides w (quotedBesides w) name

/-- The name of a directory in front of what is in it. -/
def showTitle (w : Wanted) (name : String) : String := nameBesides w [':'] name

/-- Whether the names of a list are set apart from the quotation marks of others. -/
def aligns (w : Wanted) : Bool :=
  [.shell, .shellEscape, .cMaybe].contains w.style &&
    (w.format == .long || ((w.format == .columns || w.format == .rows) && w.width != 0))

def isQuoted (w : Wanted) (name : String) : Bool :=
  let shown := styled w.encoding w.style (quotedBesides w) name
  shown.length != name.length || shown.toList.head? != name.toList.head?

/-- Whether one of the names has quotation marks that others are set apart from. -/
def anyQuoted (w : Wanted) (items : List Item) : Bool := aligns w && items.any fun i => isQuoted w i.name

/-- The columns of a text. -/
def columns (w : Wanted) (text : String) : Nat :=
  ((w.encoding.glyphs text).map fun g => match g.char with
    | some c => if Encoding.shows c then Text.width c else 0
    | none => 0).foldl (· + ·) 0

/-- The mark behind a name. -/
def mark (w : Wanted) (i : Item) : String :=
  match w.marks, i.body with
  | .none, _ => ""
  | _, some (.directory ..) => "/"
  | .slash, _ => ""
  | _, some (.link _) => "@"
  | _, some (.fifo _) => "|"
  | .classify, some (.file _) | .classify, some (.program _) => if i.mode &&& 0o111 != 0 then "*" else ""
  | _, _ => ""

/-- The code of a name's color. -/
def color? (i : Item) : Option String :=
  match i.body with
  | some (.directory ..) =>
    some (if i.mode &&& 0o1002 == 0o1002 then "30;42" else if i.mode &&& 0o002 != 0 then "34;42"
      else if i.mode &&& 0o1000 != 0 then "37;44" else "01;34")
  | some (.link _) => some "01;36"
  | some (.fifo _) => some "33"
  | some (.device _) => some "01;33"
  | some (.file _) | some (.program _) =>
    if i.mode &&& 0o4000 != 0 then some "37;41"
    else if i.mode &&& 0o2000 != 0 then some "30;43"
    else if i.mode &&& 0o111 != 0 then some "01;32"
    else none
  | none => none

/-! ## Cells -/

/-- What is shown of a name, and how many columns that takes. -/
structure Cell where
  text : String
  width : Nat
  colored : Bool := false

def padLeft (width : Nat) (text : String) : String :=
  String.ofList (List.replicate (width - text.length) ' ') ++ text

def padRight (width : Nat) (text : String) : String :=
  text ++ String.ofList (List.replicate (width - text.length) ' ')

/-- What is the same for all items of a list: the widths of the numbers in front of names, and
whether a name has quotation marks that others are set apart from. -/
structure Shape where
  inode : Nat
  room : Nat
  sets : Bool

def roomText (w : Wanted) (i : Item) : String :=
  if i.found.isSome then w.room.shown i.room else "?"

def inodeText (i : Item) : String := match i.found with
  | some found => toString found.inode
  | none => "?"

def shapeOf (w : Wanted) (items : List Item) : Shape :=
  let widest (f : Item → String) : Nat := (items.map fun i => (f i).length).foldl max 0
  let sets := anyQuoted w items
  if w.format == .commas then ⟨0, 0, sets⟩ else ⟨widest inodeText, widest (roomText w), sets⟩

/-- The numbers in front of a name. -/
def front (w : Wanted) (shape : Shape) (i : Item) : String :=
  (if w.inodes then padLeft shape.inode (inodeText i) ++ " " else "") ++
    (if w.blocks then padLeft shape.room (roomText w i) ++ " " else "")

/-- A name with what stands around it. -/
def nameCell (w : Wanted) (shape : Shape) (front : String) (i : Item) : Cell :=
  let name := showName w i.name
  let gap := if shape.sets && !isQuoted w i.name then " " else ""
  let width := front.length + gap.length + columns w name + (mark w i).length
  match if w.colors then color? i else none with
  | some code =>
    { text := front ++ gap ++ "\x1b[" ++ code ++ "m" ++ name ++ "\x1b[0m" ++ mark w i, width, colored := true }
  | none => { text := front ++ gap ++ name ++ mark w i, width }

def cellOf (w : Wanted) (shape : Shape) (i : Item) : Cell :=
  nameCell w shape (front w shape i ++ (if w.context then "? " else "")) i

/-- The time of a file, in one of two forms. -/
def timeText (w : Wanted) (i : Item) : String :=
  let time := i.time w.time
  let halfYear : Int := 31556952 / 2 * 1000000000
  let isRecent := w.now - halfYear < time && time < w.now
  formed w.zone (if isRecent then w.timeForms.2 else w.timeForms.1) time

/-- All that is known of each file. -/
def longLines (w : Wanted) (shape : Shape) (items : List Item) : List Cell :=
  let known (f : Item → String) (i : Item) : String := if i.found.isSome then f i else "?"
  let links := known fun i => toString ((i.found.map (·.links)).getD 0)
  let owner := known fun i =>
    let n := (i.node.map (·.owner)).getD 0
    if w.numeric then toString n else Accounts.userText n
  let group := known fun i =>
    let n := (i.node.map (·.group)).getD 0
    if w.numeric then toString n else Accounts.groupText n
  let numbers (i : Item) : Option (Nat × Nat) := match i.node with
    | some n => if n.body matches .device _ then some n.device else none
    | none => none
  let widest (f : Item → Nat) : Nat := (items.map f).foldl max 0
  let major := widest fun i => ((numbers i).map fun d => (toString d.1).length).getD 0
  let minor := widest fun i => ((numbers i).map fun d => (toString d.2).length).getD 0
  let plain := known fun i => w.size.shown i.size
  let sizeWidth := widest fun i => if (numbers i).isSome then major + 2 + minor else (plain i).length
  let size (i : Item) : String := match numbers i with
    | some (a, b) => padLeft (sizeWidth - minor - 2) (toString a) ++ ", " ++ padLeft minor (toString b)
    | none => padLeft sizeWidth (plain i)
  let width (f : Item → String) : Nat := widest fun i => (f i).length
  -- Names stand at the left, numbers at the right.
  let party (f : Item → String) (i : Item) : String :=
    if (f i).toList.all Char.isDigit then padLeft (width f) (f i) ++ " " else padRight (width f) (f i) ++ " "
  let times := items.map fun i => if i.found.isSome then timeText w i else "?"
  let timeWidth := (times.map (·.length)).foldl max 0
  (items.zip times).map fun (i, time) =>
    let cell := nameCell w shape "" i
    let mode := match i.node with
      | some n => String.ofList [n.typeLetter] ++ modeText n.mode
      | none => "??????????"
    let target := match i.body with
      | some (.link target) => " -> " ++ showName w target
      | _ => ""
    let time := if i.found.isSome then time else padLeft timeWidth time
    let text := front w shape i ++ mode ++ " " ++ padLeft (width links) (links i) ++ " " ++
      (if w.owner then party owner i else "") ++ (if w.group then party group i else "") ++
      (if w.author then party owner i else "") ++ (if w.context then "? " else "") ++
      size i ++ " " ++ time ++ " " ++ cell.text ++ target
    { text, width := 0, colored := cell.colored }

end Listing
end PipeShell.Host.Tool
