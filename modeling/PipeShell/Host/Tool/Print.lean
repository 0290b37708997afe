import PipeShell.Host.Number.Conversion
import PipeShell.Host.Number.Integer
import PipeShell.Host.Tool.Options

/-! # Tools that print

`echo`, `printf`, `yes`, `basename` and `dirname`. -/

namespace PipeShell.Host.Tool

open PipeShell.Host.Number

/-! ## `echo` -/

def hexDigits (most : Nat) (cs : List Char) : List Char :=
  (cs.take most).takeWhile fun c => (Floating.hexValue? c).isSome

def octalDigits (most : Nat) (cs : List Char) : List Char :=
  (cs.take most).takeWhile fun c => '0' ≤ c && c ≤ '7'

def valueOf (base : Nat) (digits : List Char) : Nat :=
  digits.foldl (fun n c => base * n + (Floating.hexValue? c).getD 0) 0

def byteChar (n : Nat) : Char := Char.ofNat (n % 256)

/-- The character for a letter behind a backslash. -/
def letterEscape? : Char → Option Char
  | 'a' => some '\x07'
  | 'b' => some '\x08'
  | 'e' => some '\x1b'
  | 'f' => some '\x0c'
  | 'n' => some '\n'
  | 'r' => some '\r'
  | 't' => some '\t'
  | 'v' => some '\x0b'
  | '\\' => some '\\'
  | _ => none

/-- A text with its escapes replaced, and whether one of them ends the output. -/
def echoed (taken : List Char) (cs : List Char) : Nat → List Char × Bool
  | 0 => (taken, false)
  | fuel + 1 => match cs with
    | [] => (taken, false)
    | ['\\'] => ('\\' :: taken, false)
    | '\\' :: 'c' :: _ => (taken, true)
    | '\\' :: 'x' :: rest =>
      let digits := hexDigits 2 rest
      if digits.isEmpty then echoed ('x' :: '\\' :: taken) rest fuel
      else echoed (byteChar (valueOf 16 digits) :: taken) (rest.drop digits.length) fuel
    | '\\' :: '0' :: rest =>
      let digits := octalDigits 3 rest
      echoed (byteChar (valueOf 8 digits) :: taken) (rest.drop digits.length) fuel
    | '\\' :: c :: rest =>
      let digits := octalDigits 3 (c :: rest)
      if !digits.isEmpty then
        echoed (byteChar (valueOf 8 digits) :: taken) ((c :: rest).drop digits.length) fuel
      else match letterEscape? c with
        | some d => echoed (d :: taken) rest fuel
        | none => echoed (c :: '\\' :: taken) rest fuel
    | c :: rest => echoed (c :: taken) rest fuel

/-- Whether a word consists of the letters of options. -/
def isEchoOption (word : String) : Bool :=
  match word.toList with
  | '-' :: c :: cs => (c :: cs).all (['e', 'E', 'n'].contains ·)
  | _ => false

def echo (call : Call) : Tool Nat := do
  let isStrict := (← get).isStrict
  let hasOptions := !isStrict || call.operands.head? == some "-n"
  let options := if hasOptions then call.operands.takeWhile isEchoOption else []
  let letters := options.flatMap fun word => word.toList.drop 1
  let escapes := isStrict || (letters.filter (· != 'n')).getLast? == some 'e'
  let text := " ".intercalate (call.operands.drop options.length)
  let newline := !letters.contains 'n'
  if escapes then
    let (taken, isLast) := echoed [] text.toList text.length
    print (String.ofList taken.reverse ++ (if newline && !isLast then "\n" else ""))
  else print (text ++ (if newline then "\n" else ""))
  return 0

/-! ## `printf` -/

namespace Format

structure State where
  arguments : List String
  status : Nat := 0

/-- Printing by a format. -/
abbrev Printing := StateT State Tool

def next : Printing (Option String) := do
  let s ← get
  match s.arguments with
  | [] => return none
  | a :: rest =>
    set { s with arguments := rest }
    return some a

def write (text : Message) : Printing Unit := StateT.lift (print text)

def complain (text : Message) : Printing Unit := do
  StateT.lift (warn text)
  modify fun s => { s with status := 1 }

/-- Says what is wrong with a number of which `rest` could not be read. -/
def check (text : String) (rest : List Char) (far : Bool) : Printing Unit := do
  if far then complain (quote text ++ ": " ++ (Errno.mk 34).message)
  else if !rest.isEmpty then
    if rest.length == text.length then complain (quote text ++ ": expected a numeric value")
    else complain (quote text ++ ": value not completely converted")

/-- The code of a character behind a quotation mark. -/
def charCode? (text : String) : Printing (Option Nat) := do
  match text.toList with
  | mark :: c :: rest =>
    if mark != '"' && mark != '\'' then return none
    if !rest.isEmpty && !(← StateT.lift get).isStrict then
      StateT.lift (warn ("warning: " ++ String.ofList rest ++
        ": character(s) following character constant have been ignored"))
    return some c.toNat
  | _ => return none

def integer (signed : Bool) (text : String) : Printing Int := do
  match ← charCode? text with
  | some n => return n
  | none =>
    let (n, far, rest) := Integer.read 0 text.toList
    check text rest (if signed then Integer.signedFar n far else far)
    return if signed then Integer.clampSigned n else Integer.wrapUnsigned n

def floating (text : String) : Printing Floating := do
  match ← charCode? text with
  | some n => return Floating.ofInt .extended n
  | none => match Floating.read? .extended text.toList with
    | some (x, far, rest) =>
      check text rest far
      return x
    | none =>
      check text text.toList false
      return .finite false 0 0

/-- Prints an escape, the rest of whose text is given, and gives what follows it. -/
def escape (zeroFirst : Bool) (cs : List Char) : Printing (List Char) := do
  let missing {α : Type} : Printing α :=
    StateT.lift (fail 1 "missing hexadecimal number in escape")
  match cs with
  | [] =>
    write "\\"
    return []
  | 'x' :: rest =>
    let digits := hexDigits 2 rest
    if digits.isEmpty then missing
    write (String.ofList [byteChar (valueOf 16 digits)])
    return rest.drop digits.length
  | 'c' :: _ => StateT.lift (throw 0)
  | '"' :: rest =>
    write "\""
    return rest
  | c :: rest =>
    if c == 'u' || c == 'U' then
      let size := if c == 'u' then 4 else 8
      let digits := hexDigits size rest
      if digits.length < size then missing
      let n := valueOf 16 digits
      let isBasic := n ≤ 0x9f && n != 0x24 && n != 0x40 && n != 0x60
      let hex := String.ofList (Nat.toDigits 16 n)
      let padded (size : Nat) := Floating.repeated '0' (size - hex.length) ++ hex
      if isBasic || (0xd800 ≤ n && n ≤ 0xdfff) then
        StateT.lift (fail 1 ("invalid universal character name \\" ++ String.ofList [c] ++ padded size))
      if n < 0x80 then write (String.ofList [byteChar n])
      else if n < 0x10000 then write ("\\u" ++ (padded 4).map Char.toUpper)
      else write ("\\U" ++ (padded 8).map Char.toUpper)
      return rest.drop size
    let octal := octalDigits 3 (if zeroFirst && c == '0' then rest else c :: rest)
    if '0' ≤ c && c ≤ '7' then
      write (String.ofList [byteChar (valueOf 8 octal)])
      return (if zeroFirst && c == '0' then rest else c :: rest).drop octal.length
    match letterEscape? c with
    | some d => write (String.ofList [d])
    | none => write (String.ofList ['\\', c])
    return rest

/-- Prints a text with its escapes replaced. -/
def escapedText (cs : List Char) : Nat → Printing Unit
  | 0 => pure ()
  | fuel + 1 => match cs with
    | [] => pure ()
    | '\\' :: rest => do escapedText (← escape true rest) fuel
    | c :: rest => do
      write (String.ofList [c])
      escapedText rest fuel

/-- The conversions that may follow a flag. -/
def allowedAfter (flag : Char) (letters : List Char) : List Char :=
  let without (removed : String) := letters.filter (!removed.toList.contains ·)
  match flag with
  | 'I' | '\'' => without "aAceEosxX"
  | '#' => without "cdisu"
  | '0' | '.' => without (if flag == '0' then "cs" else "c")
  | _ => letters

def maxWidth : Nat := 2147483647

/-- A width or a precision in digits, or as an argument behind a star. -/
def field (what : String) (cs : List Char) : Printing (Option Int × List Char) := do
  match cs with
  | '*' :: rest => match ← next with
    | none => return (some 0, rest)
    | some text =>
      let n ← integer true text
      if (maxWidth : Int) < n || n < -(maxWidth : Int) - 1 then
        StateT.lift (fail 1 ("invalid " ++ what ++ ": " ++ quote text))
      return (some n, rest)
  | _ =>
    let digits := cs.takeWhile Char.isDigit
    return (if digits.isEmpty then none else some (valueOf 10 digits), cs.drop digits.length)

/-- Prints one argument by the conversion behind a percent sign, and gives what follows. -/
def directive (spec : List Char) : Printing (List Char) := do
  let flags := spec.takeWhile ("I'-+ #0".toList.contains ·)
  let letters := flags.foldl (fun letters f => allowedAfter f letters) "aAcdeEfFgGiosuxX".toList
  let (width, cs) ← field "field width" (spec.drop flags.length)
  let (precision, letters, cs) ← match cs with
    | '.' :: rest =>
      let (n, rest) ← field "precision" rest
      pure (some (n.getD 0), allowedAfter '.' letters, rest)
    | cs => pure (none, letters, cs)
  let cs := cs.dropWhile ("lLhjtz".toList.contains ·)
  let letter := cs.headD '\x00'
  if cs.isEmpty || !letters.contains letter then
    let shown := spec.take (spec.length - cs.length + (if cs.isEmpty then 0 else 1))
    StateT.lift (fail 1 ("%" ++ String.ofList shown ++ ": invalid conversion specification"))
  let width := width.getD 0
  let c : Conversion := {
    left := flags.contains '-' || width < 0
    plus := flags.contains '+', blank := flags.contains ' ', zeros := flags.contains '0'
    alternate := flags.contains '#', width := width.natAbs
    precision := precision.bind fun n => if n < 0 then none else some n.toNat }
  let text := (← next).getD ""
  match letter with
  | 'c' => write (c.char (text.toList.headD '\x00'))
  | 's' => write (c.text text)
  | 'd' | 'i' => write (c.signed (← integer true text))
  | 'o' | 'u' | 'x' | 'X' => write (c.unsigned letter (← integer false text).toNat)
  | _ => write (c.floating .extended letter (← floating text))
  return cs.drop 1

/-- Goes through a format once. -/
def once (cs : List Char) : Nat → Printing Unit
  | 0 => pure ()
  | fuel + 1 => match cs with
    | [] => pure ()
    | '\\' :: rest => do once (← escape false rest) fuel
    | '%' :: '%' :: rest => do
      write "%"
      once rest fuel
    | '%' :: 'b' :: rest => do
      match ← next with
      | some text => escapedText text.toList text.length
      | none => pure ()
      once rest fuel
    | '%' :: 'q' :: rest => do
      match ← next with
      | some text => write (shellMaybe text)
      | none => pure ()
      once rest fuel
    | '%' :: rest => do once (← directive rest) fuel
    | c :: rest => do
      write (String.ofList [c])
      once rest fuel

/-- Goes through a format as long as that uses arguments. -/
def all (format : List Char) : Nat → Printing Unit
  | 0 => pure ()
  | fuel + 1 => do
    let before := (← get).arguments.length
    once format format.length
    let left := (← get).arguments.length
    if left < before && 0 < left then all format fuel

end Format

def printf (call : Call) : Tool Nat := do
  let words := match call.operands with
    | "--" :: rest => rest
    | words => words
  match words with
  | [] => missingOperand 1
  | format :: arguments =>
    let ((), s) ← (Format.all format.toList (arguments.length + 1)).run { arguments }
    match s.arguments with
    | extra :: _ =>
      warn ("warning: ignoring excess arguments, starting with " ++ quote extra)
    | [] => pure ()
    return s.status

/-! ## `yes` -/

/-- Writes the same block until that fails. -/
def writeForever (block : ByteArray) : Nat → Tool Nat
  | 0 => return 1
  | fuel + 1 => do
    match ← act (Act.write 1 block) with
    | .ok () => writeForever block fuel
    | .error e => fail 1 ("standard output: " ++ e.message)

def yes (call : Call) : Tool Nat := do
  let p ← parse [] false 1 call.operands
  let line := ByteText.toBytes (if p.operands.isEmpty then "y\n" else " ".intercalate p.operands ++ "\n")
  let times := max 1 (8192 / line.size)
  let block := (List.range times).foldl (fun block _ => block ++ line) ByteArray.empty
  writeForever block Act.manyReads

/-! ## Parts of paths -/

/-- The last name of a path; slashes are one if there is nothing else. -/
def lastName (path : String) : String :=
  match (FileSystem.namesOf path).getLast? with
  | some name => name
  | none => if path.isEmpty then "" else "/"

def withoutSuffix (suffix name : String) : String :=
  if !suffix.isEmpty && name.endsWith suffix && name != suffix && !name.startsWith "/" then
    String.ofList (name.toList.take (name.length - suffix.length))
  else name

def basename (call : Call) : Tool Nat := do
  let p ← parse [.letter 'a' "multiple" .none, .letter 's' "suffix" .required,
    .letter 'z' "zero" .none] true 1 call.operands
  let stop := if p.has "z" then "\x00" else "\n"
  match p.operands with
  | [] => missingOperand 1
  | path :: rest =>
    if p.hasAny ["a", "s"] then
      let suffix := (p.last? "s").getD ""
      for path in p.operands do print (withoutSuffix suffix (lastName path) ++ stop)
    else
      match rest with
      | _ :: extra :: _ => extraOperand 1 extra
      | _ => print (withoutSuffix (rest.headD "") (lastName path) ++ stop)
    return 0

/-- The path without its last name. -/
def parentName (path : String) : String :=
  let dropSlashes (cs : List Char) : List Char := cs.dropWhile (· == '/')
  let parent := dropSlashes ((dropSlashes path.toList.reverse).dropWhile (· != '/'))
  if !parent.isEmpty then String.ofList parent.reverse
  else if path.startsWith "/" then "/" else "."

def dirname (call : Call) : Tool Nat := do
  let p ← parse [.letter 'z' "zero" .none] true 1 call.operands
  if p.operands.isEmpty then missingOperand 1
  let stop := if p.has "z" then "\x00" else "\n"
  for path in p.operands do print (parentName path ++ stop)
  return 0

end PipeShell.Host.Tool
