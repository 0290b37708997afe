import PipeShell.Host.Number.Conversion
import PipeShell.Host.Number.Integer
import PipeShell.Host.Script.Builtin.Operands

/-! # Builtins that print: `echo` and `printf` -/

namespace PipeShell.Host.Script.Builtin

open PipeShell.Host.Number

/-! ## Escapes -/

def octalDigits (most : Nat) (cs : List Char) : List Char :=
  (cs.take most).takeWhile fun c => '0' ≤ c && c ≤ '7'

/-- The character for what stands behind a backslash, and the rest. What is no escape leaves the
backslash as it is. -/
def escape (cs : List Char) : Char × List Char :=
  match cs with
  | '\\' :: rest => ('\\', rest)
  | 'a' :: rest => ('\x07', rest)
  | 'b' :: rest => ('\x08', rest)
  | 'e' :: rest => ('\x1b', rest)
  | 'f' :: rest => ('\x0c', rest)
  | 'n' :: rest => ('\n', rest)
  | 'r' :: rest => ('\r', rest)
  | 't' :: rest => ('\t', rest)
  | 'v' :: rest => ('\x0b', rest)
  | _ =>
    let digits := octalDigits 3 cs
    if digits.isEmpty then ('\\', cs)
    else
      let n := digits.foldl (fun n d => 8 * n + (d.toNat - '0'.toNat)) 0
      (Char.ofNat (n % 256), cs.drop digits.length)

/-- A text with its escapes replaced, and whether one of them says that it is the last to be
printed. In octal numbers a zero may come first. -/
def unescaped (taken : List Char) (cs : List Char) : Nat → String × Bool
  | 0 => (String.ofList taken.reverse, false)
  | fuel + 1 => match cs with
    | [] => (String.ofList taken.reverse, false)
    | '\\' :: 'c' :: _ => (String.ofList taken.reverse, true)
    | '\\' :: '0' :: d :: rest =>
      let (c, rest) := escape (if '0' ≤ d && d ≤ '7' then d :: rest else '0' :: d :: rest)
      unescaped (c :: taken) rest fuel
    | '\\' :: rest =>
      let (c, rest) := escape rest
      unescaped (c :: taken) rest fuel
    | c :: rest => unescaped (c :: taken) rest fuel

def echo (operands : List String) : Sh Nat := do
  let (newline, operands) := match operands with
    | "-n" :: rest => (false, rest)
    | operands => (true, operands)
  go newline operands
  return 0
where
  go (newline : Bool) : List String → Sh Unit
    | [] => if newline then Sh.print "\n" else pure ()
    | text :: rest => do
      let (text, isLast) := unescaped [] text.toList text.length
      Sh.print text
      if isLast then return
      if rest.isEmpty then
        if newline then Sh.print "\n"
      else
        Sh.print " "
        go newline rest

/-! ## Formats -/

structure Printing where
  /-- The arguments that have not been used. -/
  arguments : List String
  status : Nat := 0
  used : Bool := false

abbrev Format := StateT Printing Sh

def nextArgument : Format (Option String) := do
  let p ← get
  match p.arguments with
  | [] => return none
  | a :: rest =>
    set { p with arguments := rest, used := true }
    return some a

def complain (text : String) : Format Unit := do
  StateT.lift (Sh.warn text)
  modify fun p => { p with status := 1 }

/-- Says what is wrong with a number of which `rest` could not be read. -/
def checkNumber (text : String) (rest : List Char) (outOfRange : Bool) : Format Unit := do
  if !rest.isEmpty then
    if rest.length == text.length then complain (text ++ ": expected numeric value")
    else complain (text ++ ": not completely converted")
  else if outOfRange then complain (text ++ ": " ++ (Errno.mk 34).message)

/-- A number as C writes it, or the code of the character behind a quotation mark. -/
def integerArgument (signed : Bool) : Format Int := do
  match ← nextArgument with
  | none => return 0
  | some text => match text.toList with
    | '"' :: rest | '\'' :: rest => return (rest.headD '\x00').toNat
    | cs =>
      let (n, far, rest) := Integer.read 0 cs
      checkNumber text rest (if signed then Integer.signedFar n far else Integer.unsignedFar n far)
      return if signed then Integer.clampSigned n else Integer.wrapUnsigned n

def floatingArgument : Format Floating := do
  match ← nextArgument with
  | none => return .finite false 0 0
  | some text => match text.toList with
    | '"' :: rest | '\'' :: rest => return .finite false (rest.headD '\x00').toNat 0
    | cs => match Floating.read? .double cs with
      | some (x, far, rest) =>
        checkNumber text rest far
        return x
      | none =>
        checkNumber text cs false
        return .finite false 0 0

def isFlag (c : Char) : Bool := ['#', '-', '+', ' ', '0'].contains c

/-- A width or a precision: digits, or an argument in the place of a star. -/
def field (cs : List Char) : Format (Option Int × List Char) := do
  match cs with
  | '*' :: rest => return (some (← integerArgument true), rest)
  | _ =>
    let digits := cs.takeWhile Char.isDigit
    let n : Nat := digits.foldl (fun n d => 10 * n + (d.toNat - '0'.toNat)) 0
    return (if digits.isEmpty then none else some n, cs.drop digits.length)

/-- A conversion behind its percent sign, up to its letter. -/
def conversion (cs : List Char) : Format (Conversion × List Char) := do
  let flags := cs.takeWhile isFlag
  let (width, cs) ← field (cs.drop flags.length)
  let (precision, cs) ← match cs with
    | '.' :: rest =>
      let (n, rest) ← field rest
      pure (some (n.getD 0), rest)
    | cs => pure (none, cs)
  let width := width.getD 0
  return ({
    left := flags.contains '-' || width < 0
    plus := flags.contains '+', blank := flags.contains ' ', zeros := flags.contains '0'
    alternate := flags.contains '#', width := width.natAbs
    precision := precision.bind fun n => if n < 0 then none else some n.toNat }, cs)

/-- Prints the arguments once through a format. True if an argument says that nothing follows. -/
def formatOnce (cs : List Char) : Nat → Format Bool
  | 0 => return false
  | fuel + 1 => do
    let print (text : String) : Format Unit := StateT.lift (Sh.print text)
    match cs with
    | [] => return false
    | '\\' :: rest =>
      let (c, rest) := escape rest
      print (String.ofList [c])
      formatOnce rest fuel
    | '%' :: '%' :: rest =>
      print "%"
      formatOnce rest fuel
    | '%' :: spec =>
      let (c, rest) ← conversion spec
      match rest with
      | [] => StateT.lift (Sh.fail "missing format character")
      | letter :: rest =>
        let isLast ← match letter with
          | 'b' => do
            let text := (← nextArgument).getD ""
            let (text, isLast) := unescaped [] text.toList text.length
            print (c.text text)
            pure isLast
          | 'c' => do
            print (c.char (((← nextArgument).getD "").toList.headD '\x00'))
            pure false
          | 's' => do
            print (c.text ((← nextArgument).getD ""))
            pure false
          | 'd' | 'i' => do
            print (c.signed (← integerArgument true))
            pure false
          | 'o' | 'u' | 'x' | 'X' => do
            print (c.unsigned letter (← integerArgument false).toNat)
            pure false
          | 'a' | 'A' | 'e' | 'E' | 'f' | 'F' | 'g' | 'G' => do
            print (c.floating .double letter (← floatingArgument))
            pure false
          | _ =>
            let shown := String.ofList ('%' :: spec.take (spec.length - rest.length))
            StateT.lift (Sh.fail (shown ++ ": invalid directive"))
        if isLast then return true
        formatOnce rest fuel
    | c :: rest =>
      print (String.ofList [c])
      formatOnce rest fuel

/-- Uses a format as often as it takes to print all arguments. -/
def formatAll (format : String) : Nat → Format Unit
  | 0 => pure ()
  | fuel + 1 => do
    modify fun p => { p with used := false }
    let isLast ← formatOnce format.toList format.length
    let p ← get
    if !isLast && p.used && !p.arguments.isEmpty then formatAll format fuel

def printf (operands : List String) : Sh Nat := do
  match ← plainOperands operands with
  | [] => Sh.fail "usage: printf format [arg ...]"
  | format :: arguments =>
    let ((), p) ← (formatAll format (arguments.length + 1)).run { arguments }
    return p.status

end PipeShell.Host.Script.Builtin
