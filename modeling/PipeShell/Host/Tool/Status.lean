import PipeShell.Host.Accounts
import PipeShell.Host.FileSystem.Facts
import PipeShell.Host.Number.Conversion
import PipeShell.Host.Tool.Date
import PipeShell.Host.Tool.Making

/-! # `stat`

Shows what is known of files, in a form in which a percent sign and a letter stand for one of these
things. -/

namespace PipeShell.Host.Tool
namespace Status

open PipeShell.Host.Number

/-- A file, and what it takes to tell of it. -/
structure Subject where
  path : String
  inode : Inode
  node : Node
  links : Nat
  zone : Zone
  quoting : NameStyle

/-- What a letter stands for. -/
inductive Fact where
  | text (text : String)
  /-- A name that is quoted, and the target of a link. -/
  | name (name : String) (target : Option String)
  /-- A number, and the letter of the base that it is shown in. -/
  | number (n : Nat) (base : Char)
  | moment (m : Moment)
  | unknown

/-- The number of the file system that all files are on. -/
def deviceNumber : Nat × Nat := (0, 1)

def whole (device : Nat × Nat) : Nat := device.1 * 256 + device.2

/-- What a letter stands for, behind a letter that asks for a part of the number of a device. -/
def fact (s : Subject) (part : Option Char) (letter : Char) : Fact :=
  let n := s.node
  let device (d : Nat × Nat) : Nat := match part with
    | some 'H' => d.1
    | some _ => d.2
    | none => whole d
  let date (m : Moment) : Fact := .text (formed s.zone "%Y-%m-%d %H:%M:%S.%N %z" m)
  match letter with
  | 'n' => .text s.path
  | 'N' => .name s.path (match n.body with
    | .link target => some target
    | _ => none)
  | 'a' => .number n.mode 'o'
  | 'A' => .text (String.ofList [n.typeLetter] ++ modeText n.mode)
  | 'b' => .number n.blocks 'u'
  | 'B' => .number 512 'u'
  | 'C' => .text "?"
  | 'd' => .number (device deviceNumber) 'u'
  | 'D' => .number (whole deviceNumber) 'x'
  | 'f' => .number (n.typeBits + n.mode) 'x'
  | 'F' => .text n.kind
  | 'g' => .number n.group 'u'
  | 'G' => .text (((Accounts.group? n.group).map (·.name)).getD "UNKNOWN")
  | 'h' => .number s.links 'u'
  | 'i' => .number s.inode 'u'
  | 'm' => .text "/"
  | 'o' => .number 4096 'u'
  | 'r' => .number (device n.device) 'u'
  | 'R' => .number (whole n.device) 'x'
  | 's' => .number n.size 'u'
  | 't' => .number n.device.1 'x'
  | 'T' => .number n.device.2 'x'
  | 'u' => .number n.owner 'u'
  | 'U' => .text (((Accounts.user? n.owner).map (·.name)).getD "UNKNOWN")
  | 'w' => date n.born
  | 'W' => .moment n.born
  | 'x' => date n.accessed
  | 'X' => .moment n.accessed
  | 'y' => date n.modified
  | 'Y' => .moment n.modified
  | 'z' => date n.changed
  | 'Z' => .moment n.changed
  | _ => .unknown

/-! ## Directives -/

/-- What stands between a percent sign and a letter. -/
structure Layout where
  flags : List Char
  width : Option Nat
  /-- Nothing if there is no point; a point may stand alone. -/
  precision : Option (Option Nat)

def conversion (l : Layout) (allowed : String) : Conversion :=
  let has (c : Char) : Bool := l.flags.contains c && allowed.toList.contains c
  { left := has '-', plus := has '+', blank := has ' ', zeros := has '0', alternate := has '#'
    width := l.width.getD 0, precision := l.precision.map (·.getD 0) }

/-- The width of the seconds in front of a point and so many places: what is left of the whole width,
unless that is too little. -/
def secondsWidth (width places : Nat) : Nat :=
  if 1 < width then (if 1 < width - 1 - places then width - 1 - places else 0) else width

/-- Blanks behind the places of seconds that are narrower than the whole width, and one for each
column that they are too wide by. -/
def blanksBehind (width front places : Nat) : Nat :=
  if 1 < width && front + 1 < width then (((width - front - 1 : Nat) : Int) - places).natAbs else 0

/-- The seconds of a moment, with as many digits behind the point as asked for. The places of a moment
before 1970 are counted backwards. -/
def shownMoment (l : Layout) (m : Moment) : String :=
  let c := { conversion l "'-+ 0" with precision := none }
  let seconds := m.fdiv 1000000000
  match l.precision with
  | none | some (some 0) => c.signed seconds
  | some precision =>
    let places := precision.getD 9
    let unit : Nat := 10 ^ (9 - min places 9)
    let nanos := (m.fmod 1000000000).toNat
    let (seconds, part, isMinus) : Int × Nat × Bool :=
      if seconds < 0 && nanos != 0 then
        let part := 10 ^ min places 9 - nanos / unit - (if nanos % unit == 0 then 0 else 1)
        (if part == 0 then seconds else seconds + 1, part, true)
      else (seconds, nanos / unit, seconds < 0)
    let zeros (n : Nat) : String := String.ofList (List.replicate n '0')
    let fraction := "." ++ zeros (min places 9 - (toString part).length) ++ toString part
    let width := secondsWidth c.width places
    let front := { c with width := if c.left && 1 < c.width then 0 else width, left := c.left && c.width ≤ 1 }.digits
      (c.sign isMinus) (toString seconds.natAbs) false
    front ++ fraction ++ zeros (places - 9) ++
      String.ofList (List.replicate (blanksBehind c.width front.length places) ' ')

def shownFact (e : Encoding) (s : Subject) (l : Layout) : Fact → String
  | .text text => (conversion l "'-").text text
  | .name name target =>
    let quoted (word : String) : String := (conversion l "'-").text (styled e s.quoting [] word)
    quoted name ++ (match target with
      | some target => " -> " ++ quoted target
      | none => "")
  | .number n base => (conversion l (if base == 'u' then "'-0" else "-#0")).unsigned base n
  | .moment m => shownMoment l m
  | .unknown => "?"

def flagLetters : List Char := "'-+ #0I".toList

def digitsOf (cs : List Char) : List Char := cs.takeWhile Char.isDigit

def numberOf (digits : List Char) : Option Nat := (String.ofList digits).toNat?

/-- The layout behind a percent sign, and how many characters it takes. -/
def layout (cs : List Char) : Layout × Nat :=
  let flags := cs.takeWhile flagLetters.contains
  let rest := cs.drop flags.length
  let width := digitsOf rest
  match rest.drop width.length with
  | '.' :: rest =>
    let precision := digitsOf rest
    ({ flags, width := numberOf width, precision := some (numberOf precision) },
      flags.length + width.length + 1 + precision.length)
  | _ => ({ flags, width := numberOf width, precision := none }, flags.length + width.length)

def octalDigit (c : Char) : Bool := '0' ≤ c && c ≤ '7'

def hexValue? (c : Char) : Option Nat :=
  if c.isDigit then some (c.toNat - '0'.toNat)
  else if 'a' ≤ c && c ≤ 'f' then some (c.toNat - 'a'.toNat + 10)
  else if 'A' ≤ c && c ≤ 'F' then some (c.toNat - 'A'.toNat + 10)
  else none

def letterEscapes : List (Char × Char) := [('a', '\x07'), ('b', '\x08'), ('e', '\x1b'), ('f', '\x0c'),
  ('n', '\n'), ('r', '\r'), ('t', '\t'), ('v', '\x0b'), ('"', '"'), ('\\', '\\')]

/-- Shows the character that stands behind a backslash, and gives what follows it. -/
def escape (cs : List Char) : Tool (List Char) := do
  let byte (n : Nat) : Tool Unit := print (String.ofList [Char.ofNat (n % 256)])
  match cs with
  | [] =>
    warn "warning: backslash at end of format"
    print "\\"
    return []
  | 'x' :: rest => match (rest.take 2).map hexValue? with
    | some a :: some b :: _ =>
      byte (16 * a + b)
      return rest.drop 2
    | some a :: _ =>
      byte a
      return rest.drop 1
    | _ =>
      warn "warning: unrecognized escape '\\x'"
      print "x"
      return rest
  | c :: rest =>
    if octalDigit c then
      let digits := ((c :: rest).take 3).takeWhile octalDigit
      byte (digits.foldl (fun n d => 8 * n + (d.toNat - '0'.toNat)) 0)
      return (c :: rest).drop digits.length
    match letterEscapes.lookup c with
    | some d => print (String.ofList [d])
    | none =>
      warn ("warning: unrecognized escape '\\" ++ String.ofList [c] ++ "'")
      print (String.ofList [c])
    return rest

/-- Shows a file in a form. The number bounds how long the form is. -/
def putForm (escapes : Bool) (s : Subject) (cs : List Char) : Nat → Tool Unit
  | 0 => return
  | fuel + 1 => match cs with
    | [] => return
    | '%' :: cs => do
      let (l, size) := layout cs
      let rest := cs.drop size
      let e := (← get).encoding
      match rest with
      | [] =>
        if 0 < size then fail 1 (quote ("%" ++ String.ofList (cs.take size)) ++ ": invalid directive")
        print "%"
      | '%' :: rest =>
        if 0 < size then
          fail 1 (quote ("%" ++ String.ofList (cs.take size) ++ "%") ++ ": invalid directive")
        print "%"
        putForm escapes s rest fuel
      | letter :: rest =>
        let isPart := (letter == 'H' || letter == 'L') && (rest.head? == some 'd' || rest.head? == some 'r')
        if isPart then
          print (shownFact e s l (fact s (some letter) (rest.headD ' ')))
          putForm escapes s (rest.drop 1) fuel
        else
          print (shownFact e s l (fact s none letter))
          putForm escapes s rest fuel
    | '\\' :: cs =>
      if escapes then do putForm escapes s (← escape cs) fuel
      else do
        print "\\"
        putForm escapes s cs fuel
    | c :: cs => do
      print (String.ofList [c])
      putForm escapes s cs fuel

/-- How names are quoted: as the environment says, but only where a form asks for a quoted name and
for nothing else with it. -/
def quotingOf (call : Call) (form : Option String) : Tool NameStyle := do
  if !form.any fun form => (form.splitOn "%N").length > 1 then return .literal
  match valueIn call.environment "QUOTING_STYLE" with
  | none => return .shellEscapeAlways
  | some word => match NameStyle.named.lookup word with
    | some style => return style
    | none =>
      warn ("ignoring invalid value of environment variable QUOTING_STYLE: " ++ quote word)
      return .shellEscapeAlways

/-- The form of all that is known of a file. -/
def wholeForm (isDevice : Bool) : String :=
  "  File: %N\n  Size: %-10s\tBlocks: %-10b IO Block: %-6o %F\n" ++
    (if isDevice then "Device: %Hd,%Ld\tInode: %-11i Links: %-5h Device type: %Hr,%Lr\n"
      else "Device: %Hd,%Ld\tInode: %-11i Links: %h\n") ++
    "Access: (%04a/%10.10A)  Uid: (%5u/%8U)   Gid: (%5g/%8G)\n" ++
    "Access: %x\nModify: %y\nChange: %z\n Birth: %w\n"

def terseForm : String := "%n %s %b %f %u %g %D %i %h %t %T %X %Y %Z %W %o\n"

/-- The form of what is known of a file system. -/
def systemForm : String := "  File: \"%n\"\n    ID: 0 Namelen: 255     Type: overlayfs\n" ++
  "Block size: 4096       Fundamental block size: 4096\n"

end Status

open Status in
def stat (call : Call) : Tool Nat := do
  let check (given : Given) : Tool Unit := do
    if given.1 == "cached" then
      let _ ← choose "--cached" [("default", 0), ("never", 1), ("always", 2)] (given.2.getD "")
  let p ← parseWith [.letter 'c' "format" .required, ⟨"printf", "printf", .required⟩, .letter 'f' "file-system" .none,
    .letter 'L' "dereference" .none, .letter 't' "terse" .none, ⟨"cached", "cached", .required⟩] false 1
    call.operands check
  if p.operands.isEmpty then missingOperand 1
  let (form, escapes) : Option String × Bool := match p.lastOf? ["c", "printf"] with
    | some key => (p.last? key, key == "printf")
    | none => (none, false)
  let quoting ← quotingOf call form
  let zone := zoneOf call.environment
  forOperands p.operands fun path => do
    let found : Option (Inode × Nat) ← if path == "-" then act (Act.nodeAt? 0) else pure none
    let answer : Except Errno Subject ← files fun fs cwd => do
      let i ← match found with
        | some (i, _) => pure i
        | none => fs.resolve cwd path (p.has "L")
      match fs.node? i with
      | some node => pure { path, inode := i, node, links := fs.linkCount i, zone, quoting }
      | none => throw Errno.notFound
    match answer with
    | .ok s =>
      let usual := if p.has "f" then systemForm else if p.has "t" then terseForm
        else wholeForm (s.node.body matches .device _)
      match form with
      | none => putForm false s usual.toList (usual.length + 1)
      | some form =>
        putForm escapes s form.toList (form.length + 1)
        if !escapes then print "\n"
      return true
    | .error e =>
      let what := if p.has "f" then "cannot read file system information for " else "cannot statx "
      report (what ++ shellQuoted path) (.error e)

end PipeShell.Host.Tool
