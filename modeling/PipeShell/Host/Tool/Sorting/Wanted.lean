import PipeShell.Host.Tool.Amount
import PipeShell.Host.Tool.Options
import PipeShell.Host.Tool.Sorting.Order

/-! # What sorting is told

Keys are given as options, or the old way as positions behind a plus and a minus sign. -/

namespace PipeShell.Host.Tool

open PipeShell.Host.Number

namespace Sorting

/-! ## Options -/

def failCode : Nat := 2

/-- The ways to compare, in the order in which messages name them. -/
def wayLetters : List Char := "dfghiMnRrV".toList

/-- Adds the letters in front of a text to a key, and gives the rest. -/
def addWays (atEnd : Bool) (k : Key) : List Char → Key × List Char
  | [] => (k, [])
  | c :: cs =>
    if c == 'b' then
      addWays atEnd (if atEnd then { k with skipsLast := true } else { k with skipsFirst := true }) cs
    else if wayLetters.contains c then
      addWays atEnd (if k.has c then k else { k with ways := k.ways ++ [c] }) cs
    else (k, c :: cs)

/-- A count at the start of a text. -/
def countAt (what : String) (cs : List Char) : Tool (Nat × List Char) :=
  match Integer.read 10 cs with
  | (n, _, rest) =>
    let isMinus := (cs.dropWhile Floating.isSpace).head? == some '-'
    if rest.length == cs.length || isMinus then
      fail failCode (what ++ ": invalid count at start of " ++ quote (String.ofList cs))
    else return (n.toNat, rest)

def strayCharacter : String := "stray character in field spec"

/-- The character in front of a key that was given the old way. No word of a call holds it. -/
def oldMark : Char := '\x00'

/-- Reads a key. A mark stands in front of one that was given the old way, and two in front of the
end of one that has no meaning. -/
def keyOf (spec : String) : Tool Key := do
  match spec.toList with
  | '\x00' :: '\x00' :: rest =>
    fail failCode (strayCharacter ++ ": invalid field specification " ++ quote (String.ofList rest))
  | '\x00' :: rest => return { ← read (String.ofList rest) with isOld := true }
  | _ => read spec
where
  read (spec : String) : Tool Key := do
  let bad {α : Type} (what : String) : Tool α :=
    fail failCode (what ++ ": invalid field specification " ++ quote spec)
  let (word, cs) ← countAt "invalid number at field start" spec.toList
  if word == 0 then bad "field number is zero"
  let (char, cs) ← match cs with
    | '.' :: cs => do
      let (n, cs) ← countAt "invalid number after '.'" cs
      if n == 0 then bad "character offset is zero"
      pure (n - 1, cs)
    | cs => pure (0, cs)
  let k : Key := {
    firstWord := if word == 1 && char == 0 then none else some (word - 1), firstChar := char }
  let (k, cs) := addWays false k cs
  let (k, cs) ← match cs with
    | ',' :: cs => do
      let (word, cs) ← countAt "invalid number after ','" cs
      if word == 0 then bad "field number is zero"
      let (char, cs) ← match cs with
        | '.' :: cs => countAt "invalid number after '.'" cs
        | cs => pure (0, cs)
      pure (addWays true { k with lastWord := some (word - 1), lastChar := char } cs)
    | cs => pure (k, cs)
  if !cs.isEmpty then bad strayCharacter
  return k

/-- Ends the tool if a key is to be compared in two ways at once. -/
def checkKey (k : Key) : Tool Unit := do
  let has (way : Char) : Nat := if k.has way then 1 else 0
  let others := if k.has 'V' || k.has 'R' || k.has 'd' || k.has 'i' then 1 else 0
  if 1 < has 'n' + has 'g' + has 'h' + has 'M' + others then
    let shown := wayLetters.filter fun c => c != 'r' && k.has c && !(c == 'i' && k.has 'd')
    fail failCode ("options " ++ quote ("-" ++ String.ofList shown) ++ " are incompatible")

def separatorOf (text : String) : Tool UInt8 :=
  match text.toList with
  | [] => fail failCode "empty tab"
  | [c] => return UInt8.ofNat c.toNat
  | ['\\', '0'] => return 0
  | _ => fail failCode ("multi-character tab " ++ quote text)

def words : List (String × Char) := [
  ("general-numeric", 'g'), ("human-numeric", 'h'), ("month", 'M'), ("numeric", 'n'),
  ("random", 'R'), ("version", 'V')]

def checkWords : List (String × Char) := [("quiet", 'C'), ("silent", 'C'), ("diagnose-first", 'c')]

def switches : List Switch := [
  .letter 'b' "ignore-leading-blanks" .none, .letter 'c' "" .none, ⟨"check", "check", .optional⟩,
  .letter 'C' "" .none, .letter 'd' "dictionary-order" .none, .letter 'f' "ignore-case" .none,
  .letter 'g' "general-numeric-sort" .none, .letter 'h' "human-numeric-sort" .none,
  .letter 'i' "ignore-nonprinting" .none, .letter 'k' "key" .required, .letter 'm' "merge" .none,
  .letter 'M' "month-sort" .none, .letter 'n' "numeric-sort" .none, .letter 'o' "output" .required,
  .letter 'r' "reverse" .none, .letter 'R' "random-sort" .none, .letter 's' "stable" .none,
  .letter 'S' "" .required, ⟨"buffer-size", "buffer-size", .required⟩, .letter 't' "field-separator" .required,
  .letter 'T' "temporary-directory" .required, .letter 'u' "unique" .none,
  .letter 'V' "version-sort" .none, .letter 'z' "zero-terminated" .none, ⟨"sort", "sort", .required⟩,
  ⟨"batch-size", "batch-size", .required⟩, ⟨"compress-program", "compress-program", .required⟩,
  ⟨"debug", "debug", .none⟩, ⟨"files0-from", "files0-from", .required⟩,
  ⟨"parallel", "parallel", .required⟩, ⟨"random-source", "random-source", .required⟩]

/-- What options say. -/
structure Wanted where
  /-- The ways for keys that say nothing themselves, and for whole lines. -/
  general : Key := {}
  keys : List Key := []
  separator : Separator := none
  /-- The letter of the check that is asked for. -/
  check : Option Char := none
  output : Option String := none
  compressor : Option String := none
  noise : Option String := none

/-- Checks the size of a buffer, which may be a part of the memory. -/
def checkSize (option text : String) : Tool Unit := do
  let refuse := refuseArgument failCode option text
  let endsWith (c : Char) : Bool := match text.toList.reverse with
    | d :: e :: _ => c == d && e.isDigit
    | _ => false
  match Amount.read false "EgGkKmMPtTYZ" text with
  | .ok n =>
    if (text.toList.getLast?.any Char.isDigit) && 2 ^ 54 ≤ n then refuse .tooLarge else return
  | .error (.badSuffix n far) =>
    if endsWith 'b' || endsWith '%' then
      if far then refuse .tooLarge else return
    else refuse (.badSuffix n far)
  | .error e => refuse e

/-- Checks how many files are to be merged at once. -/
def checkBatch (text : String) : Tool Unit := do
  let quota ← act (Act.look (·.currentTask.quota .descriptors))
  let most : Int := (quota.soft.getD (2 ^ 32 - 1) : Nat) - 3
  let tooLarge : Tool Unit := do
    warn ("--batch-size argument " ++ quote text ++ " too large")
    fail failCode s!"maximum --batch-size argument with current rlimit is {most}"
  match Amount.read false "" text with
  | .ok n =>
    if n < 2 then
      warn ("invalid --batch-size argument " ++ quote text)
      fail failCode ("minimum --batch-size argument is " ++ quote "2")
    if most < n then tooLarge
  | .error .tooLarge => tooLarge
  | .error e => refuseArgument failCode "--batch-size" text e

def addOption (w : Wanted) : Given → Tool Wanted
  | ("k", spec) => do return { w with keys := w.keys ++ [← keyOf (spec.getD "")] }
  | ("t", text) => do
    let separator ← separatorOf (text.getD "")
    if w.separator.isSome && w.separator != some separator then fail failCode "incompatible tabs"
    return { w with separator := some separator }
  | ("b", _) => return { w with general := { w.general with skipsFirst := true, skipsLast := true } }
  | ("sort", word) => do
    let way ← choose "--sort" words (word.getD "")
    return { w with general := (addWays false w.general [way]).1 }
  | ("check", word) => do
    let check ← match word with
      | some word => choose "--check" checkWords word
      | none => pure 'c'
    addCheck w check
  | ("S", size) => do
    checkSize "-S" (size.getD "")
    return w
  | ("buffer-size", size) => do
    checkSize "--buffer-size" (size.getD "")
    return w
  | ("batch-size", count) => do
    checkBatch (count.getD "")
    return w
  | ("parallel", count) => do
    match Amount.read false "" (count.getD "") with
    | .ok n => if n == 0 then fail failCode "number in parallel must be nonzero" else return w
    | .error .tooLarge => return w
    | .error e => refuseArgument failCode "--parallel" (count.getD "") e
  | ("o", name) => once w "output files" (·.output) name fun w => { w with output := name }
  | ("compress-program", name) =>
    once w "compress programs" (·.compressor) name fun w => { w with compressor := name }
  | ("random-source", name) =>
    once w "random sources" (·.noise) name fun w => { w with noise := name }
  | (key, _) => match key.toList with
    | [c] =>
      if c == 'c' || c == 'C' then addCheck w c
      else return { w with general := (addWays false w.general [c]).1 }
    | _ => return w
where
  /-- An option that may not have two values. -/
  once (w : Wanted) (what : String) (value : Wanted → Option String) (name : Option String)
      (set_ : Wanted → Wanted) : Tool Wanted := do
    if (value w).isSome && value w != name then fail failCode ("multiple " ++ what ++ " specified")
    return set_ w
  addCheck (w : Wanted) (check : Char) : Tool Wanted := do
    if w.check.isSome && w.check != some check then
      fail failCode ("options " ++ quote "-cC" ++ " are incompatible")
    return { w with check := some check }

def orderOf (w : Wanted) (p : Parsed) : Tool Order := do
  let inherit (k : Key) : Key :=
    if k.isPlain && !k.has 'r' then
      { k with
        skipsFirst := w.general.skipsFirst, skipsLast := w.general.skipsLast
        ways := w.general.ways }
    else k
  let keys := w.keys.map inherit
  let keys := if keys.isEmpty && !w.general.isPlain then [w.general] else keys
  for k in keys do checkKey k
  return {
    keys, separator := w.separator, reverses := w.general.has 'r', isStable := p.has "s"
    isUnique := p.has "u" }

/-- A position that is given the old way, counted from zero: its field, its character and what
follows. -/
def oldPosition? (cs : List Char) : Option (Nat × Nat × List Char) := do
  let digits := cs.takeWhile Char.isDigit
  let field ← (String.ofList digits).toNat?
  match cs.drop digits.length with
  | '.' :: rest =>
    let more := rest.takeWhile Char.isDigit
    let char ← (String.ofList more).toNat?
    some (field, char, rest.drop more.length)
  | rest => some (field, 0, rest)

def areWays (cs : List Char) : Bool := cs.all fun c => c == 'b' || wayLetters.contains c

/-- The start of a key that is given the old way, as it is written now. -/
def oldStart? (word : String) : Option String := do
  let '+' :: cs := word.toList | none
  let (field, char, ways) ← oldPosition? cs
  let position := String.ofList [oldMark] ++ s!"{field + 1}.{char + 1}"
  if areWays ways then some ("-k" ++ position ++ String.ofList ways) else none

/-- The end of a key that is given the old way, as it is written now. -/
def oldStop? (word : String) : Option (Except String String) := do
  let '-' :: cs := word.toList | none
  if !cs.head?.any Char.isDigit then none
  match oldPosition? cs with
  | none => some (.error word)
  | some (field, char, ways) =>
    let place := if char == 0 then toString (max field 1) else s!"{field + 1}.{char}"
    some (if areWays ways then .ok ("," ++ place ++ String.ofList ways) else .error word)

/-- The outputs and the files among words behind a file. -/
def outputsAmong : List String → List String × List String
  | [] => ([], [])
  | word :: rest =>
    if !word.startsWith "-o" then
      let (outputs, names) := outputsAmong rest
      (outputs, word :: names)
    else match word == "-o", rest with
      | true, [] => ([], [word])
      | true, name :: rest =>
        let (outputs, names) := outputsAmong rest
        (word :: name :: outputs, names)
      | false, rest =>
        let (outputs, names) := outputsAmong rest
        (word :: outputs, names)

/-- How the words of a call are read. -/
structure Manner where
  /-- Whether a word with a plus sign may be a key. -/
  takesOld : Bool
  /-- Whether a file ends the options, except for the output in the old way. -/
  isStrict : Bool
  checks : Bool := false

/-- The words from the first file on where it ends the options. -/
def fromFile (m : Manner) (word : String) (rest : List String) : List String :=
  let (outputs, names) := if m.takesOld && !m.checks then outputsAmong rest else ([], rest)
  outputs ++ "--" :: word :: names

/-- The words with the keys as they are written now. An option without an effect is left out, with a
number behind it. -/
def renewed (m : Manner) : List String → List String
  | [] => []
  | word :: rest =>
    let isStop := (rest.head?.bind oldStop?).isSome
    let m := { m with takesOld := m.takesOld || (word.startsWith "+" && isStop && !m.isStrict) }
    let start := if m.takesOld then oldStart? word else none
    if word == "--" then word :: rest
    else if m.isStrict && start.isNone && (word == "-" || !word.startsWith "-") then fromFile m word rest
    else
      let given := (parseFrom switches true {} [word] 2).given
      let m := { m with checks := m.checks || given.any fun g => ["c", "C", "check"].contains g.1 }
      match rest with
      | [] => if word == "-y" then [] else [start.getD word]
      | next :: rest =>
        if takesNext switches word then word :: next :: renewed m rest
        else if word == "-y" then
          if next.toList.all Char.isDigit then renewed m rest else renewed m (next :: rest)
        else match start, oldStop? next with
          | none, _ => word :: renewed m (next :: rest)
          | some key, some (.ok stop) => (key ++ stop) :: renewed m rest
          | some _, some (.error word) =>
            ("-k" ++ String.ofList [oldMark, oldMark] ++ word) :: renewed m rest
          | some key, none => key :: renewed m (next :: rest)

end Sorting
end PipeShell.Host.Tool
