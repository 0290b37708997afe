import PipeShell.Host.Tool.Amount
import PipeShell.Host.Tool.Digest
import PipeShell.Host.Tool.Options

/-! # Check sums

They are shown beside the names of files, and files are checked against lists of them. -/

namespace PipeShell.Host.Tool
namespace Checking

/-- A kind of digest: the name that it goes by in lists, its size in bytes and the digest of a size. -/
structure Kind where
  title : String
  size : Nat
  digest : Nat → ByteArray → List UInt8
  /-- Whether it may be smaller. -/
  varies : Bool := false

def md5 : Kind := { title := "MD5", size := 16, digest := fun _ => Digest.md5 }

def sha1 : Kind := { title := "SHA1", size := 20, digest := fun _ => Digest.sha1 }

def sha224 : Kind := { title := "SHA224", size := 28, digest := Digest.sha256With Digest.sha224Start }

def sha256 : Kind := { title := "SHA256", size := 32, digest := Digest.sha256With Digest.sha256Start }

def sha384 : Kind := { title := "SHA384", size := 48, digest := Digest.sha512With Digest.sha384Start }

def sha512 : Kind := { title := "SHA512", size := 64, digest := Digest.sha512With Digest.sha512Start }

def blake2b : Kind := { title := "BLAKE2b", size := 64, digest := Digest.blake2b, varies := true }

def sm3 : Kind := { title := "SM3", size := 32, digest := fun _ => Digest.sm3 }

/-- Ways to sum up a file: an old sum or a digest. -/
inductive Way where
  | turned | folded | remainder
  | digest (kind : Kind)

/-! ## Lists -/

/-- Whether a name has to be escaped in a list. -/
def isSpecial (name : String) : Bool := name.toList.any fun c => c == '\\' || c == '\n' || c == '\r'

/-- A name as it stands in a list. -/
def escaped (name : String) : String :=
  String.join (name.toList.map fun c =>
    if c == '\\' then "\\\\" else if c == '\n' then "\\n" else if c == '\r' then "\\r"
    else String.ofList [c])

/-- A name without its escapes, if there is nothing wrong with them. -/
def unescaped? : List Char → Option (List Char)
  | [] => some []
  | '\\' :: 'n' :: cs => (unescaped? cs).map ('\n' :: ·)
  | '\\' :: 'r' :: cs => (unescaped? cs).map ('\r' :: ·)
  | '\\' :: '\\' :: cs => (unescaped? cs).map ('\\' :: ·)
  | '\\' :: _ => none
  | '\x00' :: _ => none
  | c :: cs => (unescaped? cs).map (c :: ·)

/-- A text up to its first zero. -/
def untilZero (cs : List Char) : List Char := cs.takeWhile (· != '\x00')

def isHex (c : Char) : Bool := c.isDigit || ('a' ≤ c && c ≤ 'f') || ('A' ≤ c && c ≤ 'F')

def isWhite (c : Char) : Bool := c == ' ' || c == '\t'

/-- What a line of a list says: the digest and the size of it, and the name. -/
structure Entry where
  size : Nat
  hex : List Char
  name : String

/-- What is known while lists are read. -/
structure Reading where
  /-- The kind of digest that lines are taken for. -/
  kind : Kind
  /-- Whether each line names its kind. -/
  isNamed : Bool := false
  /-- Whether digests of every kind may be smaller, and any character may stand behind the name of a
  kind. -/
  allowsAny : Bool := false
  /-- Whether one blank stands between digest and name; not known before the first such line. -/
  oneBlank : Option Bool := none

/-- Whether a text is a digest of so many bytes and nothing else. -/
def isDigest (size : Nat) (cs : List Char) : Bool :=
  let cs := untilZero cs
  cs.length == 2 * size && cs.all isHex

/-- A name in brackets with a digest behind an equals sign. -/
def bracketed? (isEscaped : Bool) (size : Nat) (cs : List Char) : Option Entry := do
  let (after, before) := cs.reverse.span (· != ')')
  let ')' :: name := before | none
  let name := name.reverse
  let name ← if isEscaped then unescaped? name else some (untilZero name)
  let '=' :: hex := after.reverse.dropWhile isWhite | none
  let hex := hex.dropWhile isWhite
  if isDigest size hex then some { size, hex := untilZero hex, name := String.ofList name } else none

/-- The number of bits behind the name of a kind, as a size in bytes. -/
def sizeBehind? (k : Kind) (cs : List Char) : Option (Nat × List Char) := do
  let (n, far, rest) := Number.Integer.read 0 cs
  let bits := n.toNat
  if far || n ≤ 0 || 8 * k.size < bits || bits % 8 != 0 then none else some (bits / 8, rest)

/-- A line that names its kind, from behind the name on. -/
def named? (r : Reading) (isEscaped : Bool) (cs : List Char) : Option Entry := do
  let k := r.kind
  let (size, cs) ← match cs with
    | '-' :: rest => if k.varies || r.allowsAny then sizeBehind? k rest else some (k.size, cs)
    | c :: rest => some (k.size, if r.allowsAny && c != '(' then rest else cs)
    | [] => some (k.size, [])
  let cs := if cs.head? == some ' ' then cs.drop 1 else cs
  let '(' :: cs := cs | none
  bracketed? isEscaped size cs

/-- A line that begins with the digest. -/
def plain? (r : Reading) (isEscaped : Bool) (cs : List Char) : Option (Entry × Reading) := do
  let least := if r.kind.varies || r.allowsAny then 3 else 2 * r.kind.size + 2
  if cs.length < least then none
  let count := if r.kind.varies then (cs.takeWhile isHex).length else 2 * r.kind.size
  if count < 2 || count % 2 == 1 || 2 * r.kind.size < count then none
  let (hex, rest) := cs.splitAt count
  let c :: rest := rest | none
  if !isWhite c || !isDigest (count / 2) hex then none
  let first := rest.headD ' '
  let isShort := rest.length == 1 || (first != ' ' && first != '*')
  if isShort && r.oneBlank == some false then none
  let oneBlank := isShort || r.oneBlank == some true
  let name := if oneBlank then rest else rest.drop 1
  let name ← if isEscaped then unescaped? name else some (untilZero name)
  some ({ size := count / 2, hex, name := String.ofList name }, { r with oneBlank := some oneBlank })

/-- The kinds that lines may name. -/
def kinds : List Kind := [md5, sha1, sha224, sha256, sha384, sha512, blake2b, sm3]

/-- The kind that a line begins with. -/
def kindOf? (line : String) : Option Kind :=
  let name := String.ofList (line.toList.takeWhile fun c => !isWhite c && c != '-' && c != '(')
  kinds.find? (·.title == name)

/-- Reads a line of a list. -/
def entry? (r : Reading) (line : ByteText) : Option Entry × Reading :=
  let cs := line.toList.dropWhile isWhite
  let isEscaped := cs.head? == some '\\'
  let cs := if isEscaped then cs.drop 1 else cs
  let line := String.ofList cs
  if r.isNamed then
    match kindOf? line with
    | some kind =>
      let r := { r with kind }
      (named? r isEscaped (cs.drop kind.title.length), r)
    | none => (none, r)
  else if line.startsWith r.kind.title then
    (named? r isEscaped (cs.drop r.kind.title.length), r)
  else match plain? r isEscaped cs with
    | some (e, r) => (some e, r)
    | none => (none, r)

/-! ## Files -/

/-- The bytes of a file, or what prevented that. -/
def contentOf (name : String) : Tool (Except Errno ByteArray) := do
  match ← openOperand name with
  | .error e => return .error e
  | .ok fd =>
    let (bytes, failure) ← readWhole fd
    closeOperand fd
    return match failure with
      | none => .ok bytes
      | some e => .error e

/-- The bytes of a file, or nothing and a message. -/
def bytesOf? (name : String) : Tool (Option ByteArray) := do
  match ← contentOf name with
  | .ok bytes => return some bytes
  | .error e =>
    warnOf (quoteName name) e
    return none

/-- How much is said about what is checked. -/
inductive Verbosity where
  | status | quiet | plain | warnings
  deriving DecidableEq

structure Wanted where
  verbosity : Verbosity
  isStrict : Bool
  ignoresMissing : Bool

/-- How many lines of a list came to which end. -/
structure Tally where
  bad : Nat := 0
  unreadable : Nat := 0
  differing : Nat := 0
  good : Nat := 0
  missing : Nat := 0

def plural (n : Nat) (one many : String) : String := toString n ++ " " ++ (if n == 1 then one else many)

/-- Checks the file that a line names. -/
def checkEntry (w : Wanted) (kind : Kind) (e : Entry) (t : Tally) : Tool Tally := do
  let shown := if isSpecial e.name then "\\" ++ escaped e.name else e.name
  let say (what : String) : Tool Unit := do
    if w.verbosity != .status then print (shown ++ ": " ++ what ++ "\n")
  match ← contentOf e.name with
  | .error error =>
    if w.ignoresMissing && error = .notFound then return { t with missing := t.missing + 1 }
    warnOf (quoteName e.name) error
    say "FAILED open or read"
    return { t with unreadable := t.unreadable + 1 }
  | .ok bytes =>
    if (Digest.hexOf ((kind.digest e.size bytes).take e.size)).toList == e.hex.map Char.toLower then
      if w.verbosity != .quiet then say "OK"
      return { t with good := t.good + 1 }
    else
      say "FAILED"
      return { t with differing := t.differing + 1 }

/-- Says how many lines came to a bad end; whether none did. -/
def summarize (w : Wanted) (shown : String) (t : Tally) : Tool Bool := do
  if t.good + t.differing + t.unreadable + t.missing == 0 then
    warn (quoteName shown ++ ": no properly formatted checksum lines found")
    return false
  if w.verbosity != .status then
    let say (n : Nat) (one many : String) : Tool Unit := do
      if 0 < n then warn ("WARNING: " ++ plural n one many)
    say t.bad "line is improperly formatted" "lines are improperly formatted"
    say t.unreadable "listed file could not be read" "listed files could not be read"
    say t.differing "computed checksum did NOT match" "computed checksums did NOT match"
    if w.ignoresMissing && t.good == 0 then warn (quoteName shown ++ ": no file was verified")
  return 0 < t.good && t.differing == 0 && t.unreadable == 0 && (t.bad == 0 || !w.isStrict)

/-- Checks the files that a list names. -/
def checkList (w : Wanted) (r : Reading) (list : String) : Tool (Bool × Reading) := do
  let shown := if list == "-" then "standard input" else list
  match ← openOperand list with
  | .error e =>
    warnOf (quoteName list) e
    return (false, r)
  | .ok fd =>
    let (bytes, failure) ← readWhole fd
    closeOperand fd
    let mut t : Tally := {}
    let mut r := r
    for (line, number) in (linesOf 10 bytes).1.toList.zipIdx do
      let text := ByteText.ofBytes line
      if text.startsWith "#" then continue
      let text := if text.endsWith "\r" then String.ofList text.toList.dropLast else text
      if text.isEmpty then continue
      let (entry, next) := entry? r text
      r := next
      match entry.filter fun e => list != "-" || e.name != "-" with
      | some e => t ← checkEntry w r.kind e t
      | none =>
        t := { t with bad := t.bad + 1 }
        if w.verbosity = .warnings then
          warn (quoteName shown ++ s!": {number + 1}: improperly formatted " ++ r.kind.title ++
            " checksum line")
    if failure.isSome then
      warn (quoteName shown ++ ": read error")
      return (false, r)
    return (← summarize w shown t, r)

/-! ## Options -/

def switches : List Switch := [
  .letter 'b' "binary" .none, .letter 'c' "check" .none, .letter 't' "text" .none,
  .letter 'w' "warn" .none, .letter 'z' "zero" .none, ⟨"tag", "tag", .none⟩, ⟨"quiet", "quiet", .none⟩,
  ⟨"status", "status", .none⟩, ⟨"strict", "strict", .none⟩, ⟨"missing", "ignore-missing", .none⟩]

/-- Options that have a meaning only where a list is checked. -/
def checkOptions (p : Parsed) : List (Bool × String) :=
  let loudness := p.lastOf? ["w", "status", "quiet"]
  [(p.has "missing", "ignore-missing"), (loudness == some "status", "status"),
    (loudness == some "w", "warn"), (loudness == some "quiet", "quiet"), (p.has "strict", "strict")]

def wanted (p : Parsed) : Wanted where
  verbosity := match p.lastOf? ["w", "status", "quiet"] with
    | some "w" => .warnings
    | some "quiet" => .quiet
    | some _ => .status
    | none => .plain
  isStrict := p.has "strict"
  ignoresMissing := p.has "missing"

/-- Whether files are taken as bytes or as text, if that was said. -/
def binary? (p : Parsed) : Option Bool := (p.lastOf? ["b", "t", "tag"]).map (· != "t")

/-- Ends the tool if options do not go together. -/
def checkOptionsOf (p : Parsed) (isTagged : Bool) (textRefused : String) (refusesTag : Bool) :
    Tool Unit := do
  if isTagged && binary? p == some false then misuse 1 textRefused
  if p.has "c" then
    if p.has "z" then misuse 1 "the --zero option is not supported when verifying checksums"
    if refusesTag && isTagged then misuse 1 "the --tag option is meaningless when verifying checksums"
    if (binary? p).isSome then
      misuse 1 "the --binary and --text options are meaningless when verifying checksums"
  else
    for (isGiven, word) in checkOptions p do
      if isGiven then
        misuse 1 ("the --" ++ word ++ " option is meaningful only when verifying checksums")

/-- Takes the size in bytes from an option, if it gives one. -/
def addSize (size : Option Nat) (given : Given) : Tool (Option Nat) := do
  if given.1 != "l" then return size
  let text := given.2.getD ""
  let bits ← amountWithin false "" 0 (2 ^ 64 - 1) "invalid length" text
  if bits % 8 != 0 then
    warn ("invalid length: " ++ quote text)
    fail 1 "length is not a multiple of 8"
  return some (bits / 8).toNat

/-- Ends the tool if a size is too large. -/
def checkSize (p : Parsed) (kind : Kind) (size : Nat) : Tool Unit := do
  if kind.size < size then
    warn ("invalid length: " ++ quote ((p.last? "l").getD ""))
    fail 1 ("maximum digest length for " ++ quote kind.title ++ s!" is {8 * kind.size} bits")

/-! ## The tools -/

/-- The line for a file. -/
def lineFor (p : Parsed) (isTagged : Bool) (kind : Kind) (size : Nat) (name : String)
    (bytes : ByteArray) : String :=
  let hex := Digest.hexOf (kind.digest size bytes)
  let isEscaped := !p.has "z" && isSpecial name
  let mark := if isEscaped then "\\" else ""
  let shown := if isEscaped then escaped name else name
  let stop := if p.has "z" then "\x00" else "\n"
  if isTagged then
    let title := kind.title ++ (if size < kind.size then s!"-{8 * size}" else "")
    mark ++ title ++ " (" ++ shown ++ ") = " ++ hex ++ stop
  else mark ++ hex ++ (if binary? p == some true then " *" else "  ") ++ shown ++ stop

/-- Shows a line for each file. -/
def sumEach (names : List String) (line : String → ByteArray → String) : Tool Nat := do
  let mut code := 0
  for name in orInput names do
    match ← bytesOf? name with
    | none => code := 1
    | some bytes => print (line name bytes)
  return code

def checkLists (p : Parsed) (r : Reading) : Tool Nat := do
  let mut code := 0
  let mut r := r
  for list in orInput p.operands do
    let (good, next) ← checkList (wanted p) r list
    r := next
    if !good then code := 1
  return code

def digester (kind : Kind) (call : Call) : Tool Nat := do
  let sized := if kind.varies then [.letter 'l' "length" .required] else []
  let (p, size) ← parseInto (switches ++ sized) false 1 call.operands none addSize
  let size := match size with
    | some 0 | none => kind.size
    | some size => size
  checkSize p kind size
  let isTagged := p.has "tag"
  checkOptionsOf p isTagged "--tag does not support --text mode" true
  if p.has "c" then checkLists p { kind }
  else sumEach p.operands (lineFor p isTagged kind size)

/-- The line of an old sum. -/
def oldLine (way : Way) (bytes : ByteArray) : String :=
  let pad (filler : Char) (n : Nat) : String :=
    let text := toString n
    String.ofList (List.replicate (5 - text.length) filler) ++ text
  match way with
  | .turned => pad '0' (Digest.turnedSum bytes) ++ " " ++ pad ' ' ((bytes.size + 1023) / 1024)
  | .folded => toString (Digest.foldedSum bytes) ++ " " ++ toString ((bytes.size + 511) / 512)
  | _ => toString (Digest.crc bytes) ++ " " ++ toString bytes.size

def showOld (way : Way) (names : List String) (stop : String) : Tool Nat :=
  sumEach names fun name bytes =>
    oldLine way bytes ++ (if names.isEmpty then "" else " " ++ name) ++ stop

def ways : List (String × Way) := [("bsd", .turned), ("sysv", .folded), ("crc", .remainder)] ++
  kinds.map fun k => (String.ofList (k.title.toList.map Char.toLower), .digest k)

end Checking

open Checking

def md5sum : Call → Tool Nat := digester md5

def sha1sum : Call → Tool Nat := digester sha1

def sha224sum : Call → Tool Nat := digester sha224

def sha256sum : Call → Tool Nat := digester sha256

def sha384sum : Call → Tool Nat := digester sha384

def sha512sum : Call → Tool Nat := digester sha512

def b2sum : Call → Tool Nat := digester blake2b

def cksum (call : Call) : Tool Nat := do
  let names := ways.map fun (name, _) => (name, name)
  let add (state : Option String × Option Nat) (given : Given) : Tool (Option String × Option Nat) := do
    if given.1 == "a" then return (some (← chooseWhole "--algorithm" names (given.2.getD "")), state.2)
    return (state.1, ← addSize state.2 given)
  let (p, chosen, size) ← parseInto (switches ++ [.letter 'a' "algorithm" .required,
    .letter 'l' "length" .required, ⟨"untagged", "untagged", .none⟩, ⟨"debug", "debug", .none⟩])
    false 1 call.operands (none, none) add
  let way := ((chosen.bind fun name => ways.lookup name).getD .remainder)
  let kind : Option Kind := match way with
    | .digest kind => some kind
    | _ => none
  let asked := size.filter (· != 0)
  if asked.isSome && !kind.any (·.varies) then
    fail 1 "--length is only supported with --algorithm=blake2b"
  if let some kind := kind then checkSize p kind (asked.getD kind.size)
  if p.has "c" && chosen.isSome && kind.isNone then
    fail 1 "--check is not supported with --algorithm=\x7bbsd,sysv,crc\x7d"
  let isTagged := p.lastOf? ["tag", "untagged"] != some "untagged"
  checkOptionsOf p isTagged "--text mode is only supported with --untagged" false
  if p.has "c" then
    let unknown : Kind := { title := "CRC", size := 4, digest := fun _ _ => [] }
    checkLists p { kind := kind.getD unknown, isNamed := kind.isNone, allowsAny := true }
  else match kind with
    | some kind => sumEach p.operands (lineFor p isTagged kind (asked.getD kind.size))
    | none =>
      if p.has "debug" && way matches .remainder then warn "using pclmul hardware support"
      showOld way p.operands (if p.has "z" then "\x00" else "\n")

def sum (call : Call) : Tool Nat := do
  let p ← parse [.letter 'r' "" .none, .letter 's' "sysv" .none] false 1 call.operands
  showOld (if p.lastOf? ["r", "s"] == some "s" then .folded else .turned) p.operands "\n"

end PipeShell.Host.Tool
