import PipeShell.Host.Number.Floating
import PipeShell.Host.Script.Pattern
import PipeShell.Host.Tool.Options

/-! # Colors of names

A table says which kinds of files have which colors, on which terminals. It becomes a command that
tells other programs. -/

namespace PipeShell.Host.Tool
namespace Coloring

/-! ## The table -/

/-- The words of a table that stand for kinds of files, and how they are shortened. -/
def kinds : List (String × String) := [("NORMAL", "no"), ("NORM", "no"), ("FILE", "fi"), ("RESET", "rs"),
  ("DIR", "di"), ("LNK", "ln"), ("LINK", "ln"), ("SYMLINK", "ln"), ("ORPHAN", "or"), ("MISSING", "mi"),
  ("FIFO", "pi"), ("PIPE", "pi"), ("SOCK", "so"), ("BLK", "bd"), ("BLOCK", "bd"), ("CHR", "cd"),
  ("CHAR", "cd"), ("DOOR", "do"), ("EXEC", "ex"), ("LEFT", "lc"), ("LEFTCODE", "lc"), ("RIGHT", "rc"),
  ("RIGHTCODE", "rc"), ("END", "ec"), ("ENDCODE", "ec"), ("SUID", "su"), ("SETUID", "su"), ("SGID", "sg"),
  ("SETGID", "sg"), ("STICKY", "st"), ("OTHER_WRITABLE", "ow"), ("OWR", "ow"),
  ("STICKY_OTHER_WRITABLE", "tw"), ("OWT", "tw"), ("CAPABILITY", "ca"), ("MULTIHARDLINK", "mh"),
  ("CLRTOEOL", "cl")]

/-- Words that mean nothing. -/
def idle : List String := ["OPTIONS", "COLOR", "EIGHTBIT"]

def terminals : List String := ["Eterm", "ansi", "*color*", "con[0-9]*x[0-9]*", "cons25", "console", "cygwin",
  "*direct*", "dtterm", "gnome", "hurd", "jfbterm", "konsole", "kterm", "linux", "linux-c", "mlterm", "putty",
  "rxvt*", "screen*", "st", "terminator", "tmux*", "vt100", "xterm*"]

def kindColors : List (String × String) := [("RESET", "0"), ("DIR", "01;34"), ("LINK", "01;36"),
  ("MULTIHARDLINK", "00"), ("FIFO", "40;33"), ("SOCK", "01;35"), ("DOOR", "01;35"), ("BLK", "40;33;01"),
  ("CHR", "40;33;01"), ("ORPHAN", "40;31;01"), ("MISSING", "00"), ("SETUID", "37;41"), ("SETGID", "30;43"),
  ("CAPABILITY", "00"), ("STICKY_OTHER_WRITABLE", "30;42"), ("OTHER_WRITABLE", "34;42"), ("STICKY", "37;44"),
  ("EXEC", "01;32")]

def archives : List String := [".tar", ".tgz", ".arc", ".arj", ".taz", ".lha", ".lz4", ".lzh", ".lzma", ".tlz",
  ".txz", ".tzo", ".t7z", ".zip", ".z", ".dz", ".gz", ".lrz", ".lz", ".lzo", ".xz", ".zst", ".tzst", ".bz2", ".bz",
  ".tbz", ".tbz2", ".tz", ".deb", ".rpm", ".jar", ".war", ".ear", ".sar", ".rar", ".alz", ".ace", ".zoo", ".cpio",
  ".7z", ".rz", ".cab", ".wim", ".swm", ".dwm", ".esd"]

def images : List String := [".avif", ".jpg", ".jpeg", ".mjpg", ".mjpeg", ".gif", ".bmp", ".pbm", ".pgm", ".ppm",
  ".tga", ".xbm", ".xpm", ".tif", ".tiff", ".png", ".svg", ".svgz", ".mng", ".pcx", ".mov", ".mpg", ".mpeg", ".m2v",
  ".mkv", ".webm", ".webp", ".ogm", ".mp4", ".m4v", ".mp4v", ".vob", ".qt", ".nuv", ".wmv", ".asf", ".rm", ".rmvb",
  ".flc", ".avi", ".fli", ".flv", ".gl", ".dl", ".xcf", ".xwd", ".yuv", ".cgm", ".emf", ".ogv", ".ogx"]

def sounds : List String := [".aac", ".au", ".flac", ".m4a", ".mid", ".midi", ".mka", ".mp3", ".mpc", ".ogg", ".ra",
  ".wav", ".oga", ".opus", ".spx", ".xspf"]

def leftovers : List String := ["*~", "*#", ".bak", ".crdownload", ".dpkg-dist", ".dpkg-new", ".dpkg-old",
  ".dpkg-tmp", ".old", ".orig", ".part", ".rej", ".rpmnew", ".rpmorig", ".rpmsave", ".swp", ".tmp", ".ucf-dist",
  ".ucf-new", ".ucf-old"]

/-- The lines of the table that is used where no other is given. -/
def usual : List String :=
  let colored (color : String) (endings : List String) : List String := endings.map (· ++ " " ++ color)
  ["COLORTERM ?*"] ++ terminals.map ("TERM " ++ ·) ++
    kindColors.map (fun (kind, color) => kind ++ " " ++ color) ++ colored "01;31" archives ++
    colored "01;35" images ++ colored "00;36" sounds ++ colored "00;90" leftovers

/-! ## Reading a table -/

def isSpace (c : Char) : Bool := Number.Floating.isSpace c

/-- The first word of a line and what follows it, up to a remark. -/
def words (line : String) : Option (String × Option String) :=
  match line.toList.dropWhile isSpace with
  | [] | '#' :: _ => none
  | cs =>
    let (first, rest) := cs.span (!isSpace ·)
    let second := ((rest.dropWhile isSpace).takeWhile (· != '#')).reverse.dropWhile isSpace
    some (String.ofList first, if second.isEmpty then none else some (String.ofList second.reverse))

/-- Whether lines hold for the terminal. -/
inductive Scope where
  | everywhere | elsewhere | here | hereForSure
  deriving DecidableEq

structure Form where
  /-- Whether entries are shown in their own colors, and not as a command. -/
  shows : Bool
  terminal : String
  colorTerminal : String

/-- A text with a backslash in front of what would end it. -/
def protected_ (isFree : Bool) : List Char → List Char
  | [] => []
  | '\'' :: cs => '\'' :: '\\' :: '\'' :: '\'' :: protected_ true cs
  | c :: cs =>
    if c == '\\' || c == '^' then c :: protected_ (!isFree) cs
    else if (c == ':' || c == '=') && isFree then '\\' :: c :: protected_ true cs
    else c :: protected_ true cs

def entry (f : Form) (mark item color : String) : String :=
  let shown (text : String) : String := if f.shows then text else String.ofList (protected_ true text.toList)
  if f.shows then "\x1b[" ++ color ++ "m" ++ mark ++ item ++ "\t" ++ color ++ "\x1b[0m\n"
  else mark ++ shown item ++ "=" ++ shown color ++ ":"

/-- What a word and a color add; nothing if the word has no meaning. -/
def entry? (f : Form) (word color : String) : Option String :=
  let upper := word.map Char.toUpper
  if word.startsWith "." then some (entry f "*" word color)
  else if word.startsWith "*" then some (entry f "" word color)
  else if idle.contains upper then some ""
  else (kinds.lookup upper).map fun kind => entry f "" kind color

def fits (pattern text : String) : Bool :=
  Script.Pattern.matchesText (pattern.toList.map (·, false)) text.toList

/-- Reads the lines of a table: its entries, and whether all of them can be understood. -/
def read (f : Form) (source : String) : Scope → Nat → List String → Tool (String × Bool)
  | _, _, [] => return ("", true)
  | scope, number, line :: rest => do
    match words line with
    | none => read f source scope (number + 1) rest
    | some (_, none) =>
      warn (quoteName source ++ s!":{number}: invalid line;  missing second token")
      return ((← read f source scope (number + 1) rest).1, false)
    | some (word, some color) =>
      let upper := word.map Char.toUpper
      let choose (text : String) : Scope := match scope with
        | .hereForSure => .hereForSure
        | _ => if fits color text then .hereForSure else .elsewhere
      if upper == "TERM" then read f source (choose f.terminal) (number + 1) rest
      else if upper == "COLORTERM" then read f source (choose f.colorTerminal) (number + 1) rest
      else
        let scope : Scope := if scope == .hereForSure then .here else scope
        match if scope == .elsewhere then none else entry? f word color with
        | some text =>
          let (more, ok) ← read f source scope (number + 1) rest
          return (text ++ more, ok)
        | none =>
          if scope == .here then
            warn (quoteName source ++ s!":{number}: unrecognized keyword " ++ word)
          let (more, ok) ← read f source scope (number + 1) rest
          return (more, ok && scope != .here)

/-- The kind of commands that are written. -/
inductive Manner where
  | assignment | setting
  deriving DecidableEq

def mannerOf (p : Parsed) (environment : List String) : Tool Manner := do
  match p.lastOf? ["b", "c"] with
  | some "b" => return .assignment
  | some _ => return .setting
  | none => match valueIn environment "SHELL" with
    | none | some "" => fail 1 "no SHELL environment variable, and no shell type option given"
    | some path =>
      let name := (path.splitOn "/").getLastD ""
      return if name == "csh" || name == "tcsh" then .setting else .assignment

end Coloring

open Coloring in
def dircolors (call : Call) : Tool Nat := do
  let p ← parse [.letter 'b' "bourne-shell" .none, ⟨"b", "sh", .none⟩, .letter 'c' "c-shell" .none,
    ⟨"c", "csh", .none⟩, .letter 'p' "print-database" .none, ⟨"show", "print-ls-colors", .none⟩]
    false 1 call.operands
  let shows := p.has "show"
  if (p.has "p" || shows) && p.hasAny ["b", "c"] then
    misuse 1 "the options to output non shell syntax,\nand to select a shell syntax are mutually exclusive"
  if p.has "p" && shows then
    misuse 1 "options --print-database and --print-ls-colors are mutually exclusive"
  if let extra :: _ := p.operands.drop (if p.has "p" then 0 else 1) then
    warn ("extra operand " ++ quote extra)
    if p.has "p" then note "file operands cannot be combined with --print-database (-p)\n"
    tryHelp 1
  if p.has "p" then
    for line in usual do print (line ++ "\n")
    return 0
  let manner ← if shows then pure .assignment else mannerOf p call.environment
  let terminal := ((valueIn call.environment "TERM").filter (!·.isEmpty)).getD "none"
  let colorTerminal := (valueIn call.environment "COLORTERM").getD ""
  let form : Form := { shows, terminal, colorTerminal }
  let (text, ok) ← match p.operands with
    | [] => Coloring.read form "<internal>" .everywhere 1 usual
    | path :: _ => match ← openOperand path with
      | .error e => fail 1 (quoteName path ++ ": " ++ e.message)
      | .ok fd =>
        let (bytes, _) ← readWhole fd
        closeOperand fd
        Coloring.read form path .everywhere 1 ((linesOf 10 bytes).1.toList.map ByteText.ofBytes)
  if !ok then return 1
  print (if shows then text
    else match manner with
      | .assignment => "LS_COLORS='" ++ text ++ "';\nexport LS_COLORS\n"
      | .setting => "setenv LS_COLORS '" ++ text ++ "'\n")
  return 0

end PipeShell.Host.Tool
