import PipeShell.Host.Tool.Parts

/-! # The tool `tail`

It shows the end of each input, in lines or in bytes, and may go on to show what is added to it. -/

namespace PipeShell.Host.Tool

namespace Part

/-! ## The end -/

/-- Shows all but what stands before the part. -/
def skip (part : Part) (fd : Nat) : Tool (Option Errno) := do
  let step (left : Nat) (block : ByteArray) : Tool (Nat × Bool) := do
    let cut : Except Nat Nat :=
      if part.ofBytes then
        if left ≤ block.size then .ok left else .error (left - block.size)
      else lineEnd part.stop block 0 left
    match cut with
    | .ok i =>
      put (block.extract i block.size)
      flush
      return (0, false)
    | .error left => return (left, false)
  return (← forBlocks fd blockSize step part.count Act.manyReads).2

def last (part : Part) (bytes : ByteArray) : ByteArray :=
  if part.ofBytes then bytes.extract (bytes.size - part.count) bytes.size
  else
    let (lines, _) := linesOf part.stop bytes
    match lineEnd part.stop bytes 0 (lines.size - part.count) with
    | .ok i => bytes.extract i bytes.size
    | .error _ => bytes

def ending (part : Part) (fd : Nat) : Tool (Option Errno) := do
  if part.inverted then part.skip fd
  else
    let (bytes, failure) ← readWhole fd
    if failure.isNone then put (part.last bytes)
    return failure

/-! ## Options in the old way -/

/-- What a single word says in the old way: a part, the digits of its count with the unit behind
them, and whether it is followed. -/
structure Old where
  part : Part
  digits : String
  unit : String
  follows : Bool

/-- The part that a word tells `tail` in the old way, if it is the only option: a sign, digits and
a letter. -/
def oldEnding? (plusIsName : Bool) (word : String) : Option Old :=
  let read (inverted : Bool) (cs : List Char) : Option Old :=
    let digits := cs.takeWhile Char.isDigit
    let letters := cs.drop digits.length
    let unit := (letters.take 1).filter fun c => c == 'b' || c == 'c' || c == 'l'
    let rest := letters.drop unit.length
    let part : Part := { count := if unit == ['b'] then 5120 else 10, ofBytes := unit == ['b'] || unit == ['c'], inverted }
    if rest.isEmpty || rest == ['f'] then
      some { part, digits := String.ofList digits, unit := if unit == ['b'] then "b" else "", follows := !rest.isEmpty }
    else none
  match word.toList with
  | '+' :: cs => if plusIsName then none else read true cs
  | '-' :: cs => if cs.isEmpty || cs == ['c'] then none else read false cs
  | _ => none

/-- Whether the words behind the first allow the old way. -/
def allowsOld : List String → Bool
  | [] => true
  | [word] => word == "-" || !word.startsWith "-" || word == "--"
  | word :: rest => word == "--" && rest.length == 1

/-- Reads the options of `tail` in the old way, if they are so: the part, whether it is followed, and
the words that are left. -/
def oldEnding (plusIsName : Bool) (words : List String) : Tool (Part × Bool × List String) := do
  match words with
  | word :: rest =>
    match if allowsOld rest then oldEnding? plusIsName word else none with
    | none => return ({}, false, words)
    | some old =>
      if old.digits.isEmpty then return (old.part, old.follows, rest)
      match Amount.read false "b" (old.digits ++ old.unit) with
      | .ok n => return ({ old.part with count := n.toNat }, old.follows, rest)
      | .error _ => refuseAmount 1 "invalid number" word (some outOfRange)
  | [] => return ({}, false, [])

end Part

namespace Following

/-- What options say. -/
structure Wanted where
  part : Part
  follows : Bool := false
  byName : Bool := false
  /-- Whether a file that is not there is waited for. -/
  retries : Bool := false
  /-- The task with which following ends; zero is none. -/
  pid : Nat := 0

def switches : List Switch := Part.switches ++ [.letter 'f' "" .none, ⟨"follow", "follow", .optional⟩,
  .letter 'F' "" .none, .letter 's' "sleep-interval" .required, ⟨"pid", "pid", .required⟩,
  ⟨"retry", "retry", .none⟩, ⟨"unchanged", "max-unchanged-stats", .required⟩,
  ⟨"presume", "-presume-input-pipe", .none⟩, ⟨"inotify", "-disable-inotify", .none⟩]

/-- Whether a text is a number of seconds. -/
def isSeconds (text : String) : Bool :=
  match Number.Floating.read? .double text.toList with
  | some (.finite negative m _, _, []) => !negative || m == 0
  | some (.infinite negative, _, []) => !negative
  | _ => false

def add (w : Wanted) (given : Given) : Tool Wanted := do
  let (key, argument) := given
  let text := argument.getD ""
  match key with
  | "c" | "n" =>
    let ofBytes := key == "c"
    let count ← sizeAmount (Part.what ofBytes)
      (if text.startsWith "-" then String.ofList (text.toList.drop 1) else text)
    return { w with
      part := { w.part with count, ofBytes, inverted := w.part.inverted || text.startsWith "+" } }
  | "f" => return { w with follows := true, byName := false }
  | "F" => return { w with follows := true, byName := true, retries := true }
  | "follow" =>
    let byName ← argument.elim (pure false) (choose "--follow" [("descriptor", false), ("name", true)])
    return { w with follows := true, byName }
  | "retry" => return { w with retries := true }
  | "pid" => return { w with pid := (← amountWithin false "" 0 (2 ^ 31 - 1) "invalid PID" text).toNat }
  | "s" =>
    if !isSeconds text then fail 1 ("invalid number of seconds: " ++ quote text)
    return w
  | "unchanged" =>
    let _ ← amountWithin false "" 0 (2 ^ 64 - 1) "invalid maximum number of unchanged stats between opens" text
    return w
  | _ =>
    if Part.isDigitKey key then fail 1 ("option used in invalid context -- " ++ key)
    return w

/-- Says what of the options has no effect. -/
def remark (w : Wanted) : Tool Unit := do
  if w.retries && !w.follows then warn "warning: --retry ignored; --retry is useful only when following"
  if w.retries && w.follows && !w.byName then warn "warning: --retry only effective for the initial open"
  if w.pid != 0 && !w.follows then
    warn "warning: PID ignored; --pid=PID is useful only when following"

/-! ## Growth -/

/-- A file whose growth is shown. -/
structure Followed where
  title : String
  fd : Nat

/-- Whether there is more of a file than has been read. -/
def hasGrown (f : Followed) (w : World) : Bool :=
  (w.nodeAt? f.fd).any fun (i, position) => (w.files.fileContent? i).any fun bytes => position < bytes.size

/-- Whether the task has ended with which following ends. -/
def isOver (pid : Nat) (w : World) : Bool :=
  pid != 0 && !w.tasks.any fun t => t.pid == pid && t.ended.isNone

/-- Shows what is added to files, with a title wherever it is another file than before. The number
bounds how often something is added. -/
def follow (titles : Bool) (pid : Nat) (files : List Followed) (last : Option String) : Nat → Tool Unit
  | 0 => return
  | fuel + 1 => do
    flush
    act (Act.sleepUntil (2 ^ 62) fun w => isOver pid w || files.any (hasGrown · w))
    let ends ← act (Act.look (isOver pid))
    let mut last := last
    let mut isActive := false
    for f in files do
      if ← act (Act.look (hasGrown f)) then
        isActive := true
        if titles && last != some f.title then Part.putTitle false f.title
        last := some f.title
        put (← readWhole f.fd).1
    if ends || !isActive then return
    follow titles pid files last fuel

/-- Leaves a file whose end has been shown: what can grow is followed. -/
def leave (w : Wanted) (name : String) (fd : Nat) (_ : Option Errno) : Tool (List Followed) := do
  let title := if name == "-" then "standard input" else name
  if !w.follows then
    closeOperand fd
    return []
  match ← act (Act.nodeAt? fd) with
  | none => return if name == "-" then [] else [{ title, fd }]
  | some (i, _) =>
    if ← files fun fs _ => fs.isDirectory i then
      warn (quoteName title ++ ": cannot follow end of this type of file" ++
        (if w.byName && w.retries then "" else "; giving up on this name"))
      return []
    return [{ title, fd }]

end Following

open Following in
def tail (call : Call) : Tool Nat := do
  let (part, follows, words) ← Part.oldEnding (plusIsName call.environment) call.operands
  let (p, w) ← parseInto switches false 1 words { part, follows } add
  let part := w.part.withFlags p
  let part := if part.inverted then { part with count := part.count - 1 } else part
  remark w
  let names := orInput p.operands
  if w.follows && w.byName && names.contains "-" then fail 1 ("cannot follow " ++ shellQuoted "-" ++ " by name")
  if part.count == 0 && !part.inverted && !w.follows then return 0
  let (code, followed) ← part.showEach names part.ending (leave w)
  if !w.follows then return code
  let isPipe ← names.mapM fun name =>
    if name == "-" then return (← act (Act.nodeAt? 0)).isNone else return false
  if isPipe.all id then return code
  if followed.isEmpty && !w.retries then
    warn "no files remaining"
    return 1
  let titles := part.titles.getD (1 < names.length)
  follow titles w.pid followed (followed.getLast?.map (·.title)) Act.manyReads
  return code

end PipeShell.Host.Tool
