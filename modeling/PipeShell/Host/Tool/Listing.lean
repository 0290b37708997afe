import PipeShell.Host.Tool.Collation
import PipeShell.Host.Tool.Listing.Item

/-! # Listing directories

First come the operands that are no directories, then each directory with what is in it. Names are
sorted and shown one on a line, in columns, in rows, between commas or with all that is known of
them. -/

namespace PipeShell.Host.Tool
namespace Listing

open PipeShell.Host.Number

/-! ## Arrangement -/

/-- Blanks and tabs from one column to another. -/
def indent (tab start stop : Nat) : Nat → String
  | 0 => ""
  | fuel + 1 =>
    if stop ≤ start then ""
    else if tab != 0 && stop / tab > (start + 1) / tab then
      "\t" ++ indent tab (start + tab - start % tab) stop fuel
    else " " ++ indent tab (start + 1) stop fuel

def leastColumn : Nat := 3

/-- The widths of so many columns, if all cells fit into them. -/
def fit? (byColumns : Bool) (lineWidth : Nat) (widths : Array Nat) (columns : Nat) : Option (Array Nat) :=
  let rows := (widths.size + columns - 1) / columns
  let wide := (widths.toList.zipIdx).foldl
    (fun (wide : Array Nat) (width, k) =>
      let column := if byColumns then k / rows else k % columns
      let width := width + (if column + 1 == columns then 0 else 2)
      wide.modify column fun before => max before width)
    (Array.replicate columns leastColumn)
  if wide.foldl (· + ·) 0 < lineWidth then some wide else none

/-- The most columns that fit. -/
def columnsFor (byColumns : Bool) (lineWidth : Nat) (widths : Array Nat) : Nat → Array Nat
  | 0 => #[0]
  | 1 => (fit? byColumns 0 widths 1).getD #[widths.foldl max leastColumn]
  | n + 2 => (fit? byColumns lineWidth widths (n + 2)).getD (columnsFor byColumns lineWidth widths (n + 1))

def unlimited : Nat := 1000000000

/-- The columns of an arrangement. -/
def columnsOf (w : Wanted) (byColumns : Bool) (cells : Array Cell) : Array Nat :=
  let most := w.width / leastColumn + (if w.width % leastColumn != 0 then 1 else 0)
  let most := if w.width != 0 && most < cells.size then most else cells.size
  columnsFor byColumns (if w.width == 0 then unlimited else w.width) (cells.map (·.width)) most

/-- Cells that stand in a line. -/
def line (w : Wanted) (columns : Array Nat) (cells : List Cell) : String :=
  let (text, _, _) := ((cells.zipIdx).foldl
    (fun ((text, position, before) : String × Nat × Nat) (cell, k) =>
      if k == 0 then (cell.text, 0, cell.width)
      else
        let start := position + before
        let stop := position + columns.getD (k - 1) 0
        (text ++ indent w.tab start stop (stop - start) ++ cell.text, stop, cell.width))
    ("", 0, 0))
  text.push w.stop

def inColumns (w : Wanted) (cells : Array Cell) : String :=
  let columns := columnsOf w true cells
  let rows := (cells.size + columns.size - 1) / columns.size
  String.join ((List.range rows).map fun row =>
    line w columns ((List.range columns.size).filterMap fun column => cells[column * rows + row]?))

def inRows (w : Wanted) (cells : Array Cell) : String :=
  let columns := columnsOf w false cells
  let rows := (cells.size + columns.size - 1) / columns.size
  String.join ((List.range rows).map fun row =>
    line w columns (cells.toList.drop (row * columns.size) |>.take columns.size))

def betweenCommas (w : Wanted) (cells : Array Cell) : String :=
  let (text, _) := (cells.toList.zipIdx).foldl
    (fun ((text, position) : String × Nat) (cell, k) =>
      if k == 0 then (cell.text, cell.width)
      else if w.width == 0 || position + cell.width + 2 < w.width then
        (text ++ ", " ++ cell.text, position + 2 + cell.width)
      else ((text ++ ",").push w.stop ++ cell.text, cell.width))
    ("", 0)
  text.push w.stop

/-! ## Order -/

def compareItems (order : Order) (w : Wanted) (a b : Item) : Ordering :=
  let byName := compare a.name b.name
  match order with
  | .none => .eq
  | .name => byName
  | .time => (compare (b.time w.time) (a.time w.time)).then byName
  | .size => (compare b.size a.size).then byName
  | .extension => (compare a.extension b.extension).then byName
  | .version => (Collation.versions a.name b.name).then byName
  | .width => (compare (columns w (showName w a.name)) (columns w (showName w b.name))).then byName

def sorted (w : Wanted) (items : List Item) : List Item :=
  let items :=
    if w.order == .none then (if w.reversed then items.reverse else items)
    else items.mergeSort fun a b =>
      let order := if w.reversed then compareItems w.order w b a else compareItems w.order w a b
      order != .gt
  if w.directoriesFirst && w.order != .none then
    items.filter (·.leads) ++ items.filter (!·.leads)
  else items

/-! ## Directories -/

/-- What is left to be done, and what has been shown. -/
structure State where
  code : Nat := 0
  /-- Whether a directory has been shown. -/
  hasShown : Bool := false
  colored : Bool := false

abbrev Show := StateT State Tool

def failed (atOperand : Bool) : Show Unit :=
  modify fun (s : State) => { s with code := if atOperand then 2 else max s.code 1 }

/-- Shows items in the wanted form. -/
def showItems (w : Wanted) (items : List Item) : Show Unit := do
  if items.isEmpty then return
  let shape := shapeOf w items
  let cells := if w.format == .long then longLines w shape items else items.map (cellOf w shape)
  let text := match w.format with
    | .columns => inColumns w cells.toArray
    | .rows => inRows w cells.toArray
    | .commas => betweenCommas w cells.toArray
    | _ => String.join (cells.map fun c => c.text.push w.stop)
  if cells.any (·.colored) && !(← get).colored then
    modify fun (s : State) => { s with colored := true }
    print "\x1b[0m"
  print text

def isIgnored (w : Wanted) (name : String) : Bool :=
  let fits (patterns : List Script.Pattern) : Bool := patterns.any fun p =>
    !(name.startsWith "." && !(p.head?.any (·.1 == '.'))) && p.matchesText name.toList
  (!w.showsHidden && (name.startsWith "." || fits w.hidden)) || fits w.ignored

def leadsToDirectory (path : String) : Tool Bool := files fun fs cwd => (fs.resolveDirectory cwd path).isOk

def pathIn (directory name : String) : String := inDirectory directory name

/-- The items of a directory. -/
def itemsOf (w : Wanted) (directory : String) (i : Inode) : Show (List Item) := do
  let entries ← files fun fs _ => fs.entries i
  let names := (if w.showsDots then [".", ".."] else []) ++ (entries.map (·.1)).filter (!isIgnored w ·)
  names.mapM fun name => do
    let path := pathIn directory name
    let leads ← leadsToDirectory path
    match ← Copying.inspect path (w.following == .always) with
    | .ok found => return { name, leads, found := some found }
    | .error e =>
      if w.format == .long || w.marks != .none || w.blocks || w.colors || w.recursive ||
          w.directoriesFirst || w.order == .time || w.order == .size then
        warnOf ("cannot access " ++ shellQuoted (if directory == "." then name else path)) e
        failed false
      match ← Copying.inspect path false with
      | .ok found => return { name, found := some found }
      | .error _ => return { name, found := none }

/-- Shows a directory, and those in it if that is wanted. The number bounds how deep they are. -/
def showDirectory (w : Wanted) (named : Bool) (above : List Inode) (atOperand : Bool) (path : String) :
    Nat → Show Unit
  | 0 => return
  | depth + 1 => do
    match ← files fun fs cwd => fs.resolveDirectory cwd path with
    | .error e =>
      warnOf ("cannot open directory " ++ shellQuoted path) e
      failed atOperand
    | .ok i =>
      if above.contains i then
        warn (quoteName path ++ ": not listing already-listed directory")
        failed true
        return
      if named || w.recursive then
        print ((if (← get).hasShown then "\n" else "") ++ showTitle w path ++ ":\n")
      modify fun (s : State) => { s with hasShown := true }
      let items := sorted w (← itemsOf w path i)
      if w.format == .long || w.blocks then
        print (("total " ++ w.room.shown ((items.map Item.room).foldl (· + ·) 0)).push w.stop)
      showItems w items
      if w.recursive then
        for item in items do
          if item.isDirectory && item.name != "." && item.name != ".." then
            showDirectory w true (i :: above) false (pathIn path item.name) depth

/-- An operand, looked at. -/
def operand? (w : Wanted) (path : String) : Show (Option Item) := do
  let straight ← Copying.inspect path false
  let followed ← Copying.inspect path true
  let found := match w.following, followed with
    | .never, _ => straight
    | .always, _ | .operands, _ => followed
    | .directories, .ok there => if there.isDirectory then followed else straight
    | .directories, .error e => if e == Errno.notFound || e == Errno.linkLoop then straight else followed
  match found with
  | .ok found => return some { name := path, found := some found, leads := ← leadsToDirectory path }
  | .error e =>
    warnOf ("cannot access " ++ shellQuoted path) e
    failed true
    return none

/-- Lists what the operands name. -/
def list (w : Wanted) (operands : List String) : Show Unit := do
  match operands with
  | [] =>
    if w.asFiles then
      let items ← operand? w "."
      showItems w items.toList
    else showDirectory w false [] true "." Removal.maxDepth
  | operands =>
    let items := sorted w ((← operands.mapM (operand? w)).filterMap id)
    if w.asFiles then showItems w items
    else
      let others := items.filter (!·.isDirectory)
      let directories := items.filter (·.isDirectory)
      showItems w others
      if !others.isEmpty then
        modify fun (s : State) => { s with hasShown := true }
      let named := operands.length > 1 || !others.isEmpty || directories.length > 1
      for item in directories do
        showDirectory w named [] true item.name Removal.maxDepth

/-! ## Options -/

def formats : List (String × Format) := [("verbose", .long), ("long", .long), ("commas", .commas),
  ("horizontal", .rows), ("across", .rows), ("vertical", .columns), ("single-column", .lines)]

def orders : List (String × Order) := [("none", .none), ("time", .time), ("size", .size),
  ("extension", .extension), ("version", .version), ("width", .width)]

def markStyles : List (String × Marks) := [("none", .none), ("slash", .slash),
  ("file-type", .fileType), ("classify", .classify)]

def timeKinds : List (String × TimeKind) := [("atime", .accessed), ("access", .accessed),
  ("use", .accessed), ("ctime", .changed), ("status", .changed), ("mtime", .modified),
  ("modification", .modified), ("birth", .born), ("creation", .born)]

/-- The forms of times by name, for those that are long ago or to come and for recent ones. -/
def timeForms : List (String × String × String) := [
  ("full-iso", "%Y-%m-%d %H:%M:%S.%N %z", "%Y-%m-%d %H:%M:%S.%N %z"),
  ("long-iso", "%Y-%m-%d %H:%M", "%Y-%m-%d %H:%M"), ("iso", "%Y-%m-%d ", "%m-%d %H:%M"),
  ("locale", "%b %e  %Y", "%b %e %H:%M")]

def localeForms : String × String := ("%b %e  %Y", "%b %e %H:%M")

/-- When something is to be done: always, never, or on a terminal. -/
def whens : List (String × Nat) := [("always", 1), ("yes", 1), ("force", 1), ("never", 0), ("no", 0),
  ("none", 0), ("auto", 2), ("tty", 2), ("if-tty", 2)]

def switches : List Switch := Switch.ofLetters "aAbBcCdDfgGhHiI:klLmnNopqQrRsStT:uUvw:xXZ1F" ++ [
  ⟨"a", "all", .none⟩, ⟨"A", "almost-all", .none⟩, ⟨"author", "author", .none⟩, ⟨"b", "escape", .none⟩,
  ⟨"block-size", "block-size", .required⟩, ⟨"B", "ignore-backups", .none⟩, ⟨"color", "color", .optional⟩,
  ⟨"d", "directory", .none⟩, ⟨"D", "dired", .none⟩, ⟨"classify", "classify", .optional⟩,
  ⟨"file-type", "file-type", .none⟩, ⟨"format", "format", .required⟩, ⟨"full-time", "full-time", .none⟩,
  ⟨"first", "group-directories-first", .none⟩, ⟨"G", "no-group", .none⟩, ⟨"h", "human-readable", .none⟩,
  ⟨"si", "si", .none⟩, ⟨"H", "dereference-command-line", .none⟩,
  ⟨"directories", "dereference-command-line-symlink-to-dir", .none⟩, ⟨"hide", "hide", .required⟩,
  ⟨"hyperlink", "hyperlink", .optional⟩, ⟨"indicator-style", "indicator-style", .required⟩,
  ⟨"i", "inode", .none⟩, ⟨"I", "ignore", .required⟩, ⟨"k", "kibibytes", .none⟩,
  ⟨"L", "dereference", .none⟩, ⟨"n", "numeric-uid-gid", .none⟩, ⟨"N", "literal", .none⟩,
  ⟨"q", "hide-control-chars", .none⟩, ⟨"show", "show-control-chars", .none⟩, ⟨"Q", "quote-name", .none⟩,
  ⟨"quoting-style", "quoting-style", .required⟩, ⟨"r", "reverse", .none⟩, ⟨"R", "recursive", .none⟩,
  ⟨"s", "size", .none⟩, ⟨"sort", "sort", .required⟩, ⟨"time", "time", .required⟩,
  ⟨"time-style", "time-style", .required⟩, ⟨"T", "tabsize", .required⟩, ⟨"w", "width", .required⟩,
  ⟨"zero", "zero", .none⟩, ⟨"Z", "context", .none⟩]

/-- What the options choose, each of which may change what those before it have chosen. -/
structure Choice where
  format : Option Format := none
  order : Option Order := none
  style : Option NameStyle := none
  marks : Marks := .none
  time : Option TimeKind := none
  colors : Bool := false
  blocks : Bool := false
  hidesControls : Bool := false
  timeStyle : Option String := none
  width : Option Nat := none
  tab : Option Nat := none
  room : Option Human := none

/-- Whether something that may depend on the terminal is to be done; no host has one. -/
def happens (key : String) (word : Option String) : Tool Bool := do
  match word with
  | none => return true
  | some word => return (← choose ("--" ++ key) whens word) == 1

/-- How wide a line may be; too large a number stands for any width. -/
def lineWidth? (text : String) : Option Nat :=
  match Amount.readIn 0 false "" text with
  | .ok n => some (if 2 ^ 63 ≤ n then 0 else n.toNat)
  | .error .tooLarge => some 0
  | .error _ => none

/-- Adds an option to what has been chosen. -/
def Choice.add (c : Choice) (option : Given) : Tool Choice := do
  let (key, value) := option
  let word := value.getD ""
  let single : Option Format := if c.format == some .long then some .long else some .lines
  match key with
  | "1" => return { c with format := single }
  | "C" => return { c with format := some .columns }
  | "x" => return { c with format := some .rows }
  | "m" => return { c with format := some .commas }
  | "l" | "g" | "n" | "o" => return { c with format := some .long }
  | "full-time" => return { c with format := some .long, timeStyle := some "full-iso" }
  | "format" => return { c with format := some (← choose "--format" formats word) }
  | "f" => return { c with
      format := if c.format == some .long then none else c.format
      order := some .none, colors := false, blocks := false }
  | "t" => return { c with order := some .time }
  | "S" => return { c with order := some .size }
  | "X" => return { c with order := some .extension }
  | "v" => return { c with order := some .version }
  | "U" => return { c with order := some .none }
  | "sort" => return { c with order := some (← choose "--sort" orders word) }
  | "c" => return { c with time := some .changed }
  | "u" => return { c with time := some .accessed }
  | "time" => return { c with time := some (← choose "--time" timeKinds word) }
  | "time-style" => return { c with timeStyle := some word }
  | "N" => return { c with style := some .literal }
  | "Q" => return { c with style := some .c }
  | "b" => return { c with style := some .escape }
  | "quoting-style" => return { c with style := some (← choose "--quoting-style" NameStyle.named word) }
  | "F" => return { c with marks := .classify }
  | "classify" => return if ← happens key value then { c with marks := .classify } else c
  | "p" => return { c with marks := .slash }
  | "file-type" => return { c with marks := .fileType }
  | "indicator-style" => return { c with marks := ← choose "--indicator-style" markStyles word }
  | "color" => return { c with colors := ← happens key value }
  | "hyperlink" =>
    let _ ← happens key value
    return c
  | "s" => return { c with blocks := true }
  | "q" => return { c with hidesControls := true }
  | "show" => return { c with hidesControls := false }
  | "zero" => return { c with
      format := single, style := some .literal, hidesControls := false, colors := false }
  | "w" => match lineWidth? word with
    | some n => return { c with width := some n }
    | none => fail 2 ("invalid line width: " ++ quote word)
  | "T" => match Amount.readIn 0 false "" word with
    | .ok n => return { c with tab := some n.toNat }
    | .error _ => fail 2 ("invalid tab size: " ++ quote word)
  | "h" => return { c with room := some { scales := true, binary := true, unit := true, block := 1 } }
  | "si" => return { c with room := some { scales := true, unit := true, block := 1 } }
  | "block-size" => match humanOf word with
    | .ok h => return { c with room := some h }
    | .error mistake => refuseArgument 2 "--block-size" word mistake
  | _ => return c

/-- The forms of times of a style. -/
def formsOf (call : Call) (style : Option String) : Tool (String × String) := do
  let style := (style.or (valueIn call.environment "TIME_STYLE")).getD "locale"
  let plain := styleName (← get).encoding style style.length
  match plain with
  | none => return localeForms
  | some style =>
    if style.startsWith "+" then
      let form := String.ofList (style.toList.drop 1)
      match form.splitOn "\n" with
      | [form] => return (form, form)
      | [old, recent] => return (old, recent)
      | _ => fail 2 ("invalid time style format " ++ quote form)
    match timeForms.lookup style with
    | some forms => return forms
    | none => match timeForms.filter (·.1.startsWith style) with
      | [(_, forms)] => return forms
      | candidates =>
        let kind := if candidates.isEmpty then "invalid" else "ambiguous"
        warn (kind ++ " argument " ++ quote style ++ " for " ++ quote "time style")
        note ("Valid arguments are:\n" ++
          String.join (timeForms.map fun (name, _) => "  - [posix-]" ++ name ++ "\n") ++
          "  - +FORMAT (e.g., +%H:%M) for a 'date'-style format\n")
        tryHelp 2
where
  /-- A style without `posix-` in front, which leaves nothing in the plainest locale. -/
  styleName (e : Encoding) (style : String) : Nat → Option String
    | 0 => some style
    | fuel + 1 =>
      if style.startsWith "posix-" then
        if e == .bytes then none else styleName e (String.ofList (style.toList.drop 6)) fuel
      else some style

/-- The width of a line that the environment says. -/
def environmentWidth (call : Call) : Tool Nat := do
  match valueIn call.environment "COLUMNS" with
  | none | some "" => return 80
  | some text => match lineWidth? text with
    | some n => return n
    | none =>
      warn ("ignoring invalid width in environment variable COLUMNS: " ++ quote text)
      return 80

def environmentTab (call : Call) : Tool Nat := do
  match valueIn call.environment "TABSIZE" with
  | none => return 8
  | some text => match Amount.readIn 0 false "" text with
    | .ok n => return n.toNat
    | .error _ =>
      warn ("ignoring invalid tab size in environment variable TABSIZE: " ++ quote text)
      return 8

def environmentStyle (call : Call) (base : NameStyle) : Tool NameStyle := do
  match valueIn call.environment "QUOTING_STYLE" with
  | none => return base
  | some word => match NameStyle.named.lookup word with
    | some style => return style
    | none =>
      warn ("ignoring invalid value of environment variable QUOTING_STYLE: " ++ quote word)
      return base

def wantedOf (call : Call) (p : Parsed) (c : Choice) (base : Format) (style : NameStyle) : Tool Wanted := do
  let format := c.format.getD base
  let wide := format == .columns || format == .rows || format == .commas
  let (usual, isSaid) := environmentBlocks call.environment "LS_BLOCK_SIZE"
  let room := c.room.getD (if p.has "k" then { block := 1024 } else usual)
  let size := c.room.getD (if isSaid then usual else { block := 1 })
  let width ← match c.width with
    | some n => pure n
    | none => if wide || c.colors then environmentWidth call else pure 80
  let tab ← match c.tab with
    | some n => pure n
    | none => if wide then environmentTab call else pure 8
  let style ← match c.style with
    | some style => pure style
    | none => environmentStyle call style
  let timeForms ← if format == .long then formsOf call c.timeStyle else pure localeForms
  let patterns (key : String) : List Script.Pattern := p.given.filterMap fun (k, value) =>
    if k == key then value.map fun text => text.toList.map (·, false) else none
  let backups : List Script.Pattern := if p.has "B" then ["*~", ".*~"].map fun s => s.toList.map (·, false) else []
  let hides := p.lastOf? ["a", "A", "f"]
  return {
    encoding := (← get).encoding
    format, marks := c.marks, width, tab
    order := c.order.getD (if format != .long && c.time.isSome then .time else .name)
    reversed := p.has "r", directoriesFirst := p.has "first"
    style, hidesControls := c.hidesControls
    following := match p.lastOf? ["L", "H", "directories"] with
      | some "L" => .always
      | some "H" => .operands
      | some _ => .directories
      | none => if p.has "d" || c.marks == .classify || format == .long then .never else .directories
    showsHidden := hides.isSome, showsDots := hides == some "a" || hides == some "f"
    ignored := patterns "I" ++ backups, hidden := patterns "hide"
    asFiles := p.has "d", recursive := p.has "R" && !p.has "d"
    inodes := p.has "i", blocks := c.blocks, colors := c.colors
    owner := !p.has "g", group := !(p.has "o" || p.has "G"), author := p.has "author"
    context := p.has "Z", numeric := p.has "n"
    time := c.time.getD .modified, timeForms, zone := zoneOf call.environment, now := ← presentMoment
    room, size
    stop := if p.has "zero" then '\x00' else '\n' }

/-- Lists in a form that options may change. -/
def listing (base : Format) (style : NameStyle) (call : Call) : Tool Nat := do
  let (p, c) ← parseInto switches false 2 call.operands {} Choice.add
  let w ← wantedOf call p c base style
  let (_, s) ← (list w p.operands).run {}
  return s.code

end Listing

def ls (call : Call) : Tool Nat := Listing.listing .lines .literal call

/-- As `ls`, in columns and with escapes. -/
def dir (call : Call) : Tool Nat := Listing.listing .columns .escape call

/-- As `ls`, with all that is known and with escapes. -/
def vdir (call : Call) : Tool Nat := Listing.listing .long .escape call

end PipeShell.Host.Tool
