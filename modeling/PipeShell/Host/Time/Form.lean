import PipeShell.Host.Time.Zone
import PipeShell.Power

/-! # Forms of dates

A form is a text in which a percent sign and a letter stand for a part of a date. Between them may
stand signs that change case and what is filled in, a width, and a modifier. A directive that has no
meaning is shown as it is. -/

namespace PipeShell.Host

/-- A moment and what it is called where it is shown. -/
structure DateParts where
  seconds : Int
  nanoseconds : Nat
  calendar : Calendar
  place : LocalTime

def DateParts.ofMoment (zone : Zone) (nanoseconds : Int) : DateParts :=
  let seconds := nanoseconds.fdiv 1000000000
  { seconds, nanoseconds := (nanoseconds.fmod 1000000000).toNat
    calendar := zone.calendar seconds, place := zone.localTime seconds }

namespace Form

/-- What stands between a percent sign and its letter. -/
structure Directive where
  /-- The last of the signs that say what is filled in. -/
  filler : Option Char := none
  upper : Bool := false
  swaps : Bool := false
  width : Option Nat := none
  modifier : Option Char := none
  letter : Char
  /-- How many colons stand in front of the letter. -/
  colons : Nat := 0
  /-- The directive as it was written. -/
  text : List Char

/-- What a letter stands for. -/
inductive Value where
  | text (text : String)
  /-- A number with a least count of digits, and the filler that it has by itself. -/
  | number (n : Int) (digits : Nat) (filler : Option Char)
  /-- A number of years or centuries. -/
  | years (n : Int) (digits : Nat)
  /-- Digits behind a sign, with the width that they have by themselves. -/
  | offset (isMinus : Bool) (digits : String) (width : Nat)
  /-- A part of a second, with so many digits. -/
  | fraction (n : Nat)
  /-- What another form stands for. -/
  | form (form : String)
  /-- As `form`, but the text is made first. -/
  | fixed (form : String)

/-- A directive without a meaning. -/
abbrev Meaning := Option Value

def zeros (n : Nat) : String := String.ofList (List.replicate n '0')

def blanks (n : Nat) : String := String.ofList (List.replicate n ' ')

def twoDigits (n : Nat) : String := if n < 10 then "0" ++ toString n else toString n

/-- The difference to universal time, with as many colons as wanted. -/
def offsetOf (ahead : Int) (name : String) (colons : Nat) : Option Value :=
  let n := ahead.natAbs
  let isMinus := ahead < 0 || (ahead == 0 && name.startsWith "-")
  let (h, m, s) := (n / 3600, n / 60 % 60, n % 60)
  let whole : Value := .offset isMinus (toString h ++ ":" ++ twoDigits m ++ ":" ++ twoDigits s) 9
  let short : Value := .offset isMinus (toString h ++ ":" ++ twoDigits m) 6
  match colons with
  | 0 => some (.offset isMinus (toString (h * 100 + m)) 5)
  | 1 => some short
  | 2 => some whole
  | 3 => some (if s != 0 then whole else if m != 0 then short else .offset isMinus (toString h) 3)
  | _ => none

/-- What a letter means. Some letters take no modifier, or only one of the two. -/
def meaning (p : DateParts) (d : Directive) : Meaning :=
  let c := p.calendar
  let twelve := if c.hour % 12 == 0 then 12 else c.hour % 12
  let weekday := Calendar.weekdays.getD c.weekday ""
  let month := Calendar.months.getD (c.month - 1).toNat ""
  let short (name : String) : String := String.ofList (name.toList.take 3)
  let two (n : Int) : Value := .number n 2 none
  let blank (n : Int) : Value := .number n 2 (some '_')
  let monday := (c.weekday + 6) % 7
  let unlessRefused (refused : List Char) (v : Value) : Meaning :=
    match d.modifier with
    | some m => if refused.contains m then none else some v
    | none => some v
  let noE := unlessRefused ['E']
  let noO := unlessRefused ['O']
  let neither := unlessRefused ['E', 'O']
  match d.letter with
  | 'a' => neither (.text (short weekday))
  | 'A' => neither (.text weekday)
  | 'b' | 'h' => noE (.text (short month))
  | 'B' => noE (.text month)
  | 'c' => noO (.fixed "%a %b %e %H:%M:%S %EY")
  | 'C' =>
    if d.modifier == some 'E' then some (.text (toString (c.year.fdiv 100)))
    else some (.years (if c.year < 0 then -(c.year.natAbs / 100 : Nat) else c.year / 100) 2)
  | 'd' => noE (two c.day)
  | 'D' => neither (.form "%m/%d/%y")
  | 'e' => noE (blank c.day)
  | 'F' => neither (.form "%Y-%m-%d")
  | 'g' => noE (.years (c.week.1.fmod 100) 2)
  | 'G' => noE (.years c.week.1 4)
  | 'H' => noE (two c.hour)
  | 'I' => noE (two twelve)
  | 'j' => noE (.number c.dayOfYear 3 none)
  | 'k' => noE (blank c.hour)
  | 'l' => noE (blank twelve)
  | 'm' => noE (two c.month)
  | 'M' => noE (two c.minute)
  | 'n' => some (.text "\n")
  | 'N' => noE (.fraction p.nanoseconds)
  | 'p' | 'P' => some (.text (if c.hour < 12 then "AM" else "PM"))
  | 'q' => some (.number ((c.month + 2) / 3) 1 none)
  | 'r' => some (.fixed "%I:%M:%S %p")
  | 'R' => some (.form "%H:%M")
  | 's' => some (.number p.seconds 1 none)
  | 'S' => noE (two c.second)
  | 't' => some (.text "\t")
  | 'T' => some (.form "%H:%M:%S")
  | 'u' => some (.number (monday + 1 : Nat) 1 none)
  | 'U' => noE (two (((c.dayOfYear + 6 - c.weekday) / 7 : Nat) : Int))
  | 'V' => noE (two (c.week.2 : Int))
  | 'w' => noE (.number c.weekday 1 none)
  | 'W' => noE (two (((c.dayOfYear + 6 - monday) / 7 : Nat) : Int))
  | 'x' => noO (.fixed "%m/%d/%y")
  | 'X' => noO (.fixed "%H:%M:%S")
  | 'y' => some (.years (c.year.fmod 100) 2)
  | 'Y' => if d.modifier == some 'E' then some (.text (toString c.year)) else noO (.years c.year 4)
  | 'z' => offsetOf p.place.ahead p.place.name d.colons
  | 'Z' => some (.text p.place.name)
  | '%' => if d.text.length == 2 then some (.text "%") else none
  | _ => none

/-- Changes the case of a text as the directive asks. -/
def inCase (d : Directive) (text : String) : String :=
  let lower := d.letter == 'P' || (d.swaps && (d.letter == 'p' || d.letter == 'Z'))
  let upper := d.upper || (d.swaps && ['a', 'A', 'b', 'B', 'h'].contains d.letter)
  if lower then text.map Char.toLower else if upper then text.map Char.toUpper else text

/-- A text as wide as the directive asks. -/
def padded (filler : Option Char) (width : Option Nat) (text : String) : String :=
  let missing := if filler == some '-' then 0 else width.getD 0 - text.length
  (if filler == some '0' || filler == some '+' then zeros missing else blanks missing) ++ text

/-- Digits behind a sign, as wide as wanted. -/
def signed (filler : Option Char) (width : Nat) (sign digits : String) : String :=
  let missing := if filler == some '-' then 0 else width - (sign.length + digits.length)
  if filler == some '_' then blanks missing ++ sign ++ digits
  else sign ++ (if filler == some '-' then "" else zeros missing) ++ digits

section

variable (p : DateParts)

/-- The directive behind a percent sign, and what follows it. -/
def directive (cs : List Char) : Directive × List Char :=
  let signs := cs.takeWhile fun c => "_-+0^#".toList.contains c
  let rest := cs.drop signs.length
  let digits := rest.takeWhile Char.isDigit
  let rest := rest.drop digits.length
  let (modifier, rest) : Option Char × List Char := match rest with
    | 'E' :: rest => (some 'E', rest)
    | 'O' :: rest => (some 'O', rest)
    | rest => (none, rest)
  let colons := (rest.takeWhile (· == ':')).length
  let (letter, colons, rest) : Char × Nat × List Char := match rest.drop colons with
    | 'z' :: rest => ('z', colons, rest)
    | _ => match rest with
      | c :: rest => (c, 0, rest)
      | [] => ('\x00', 0, [])
  ({ filler := signs.reverse.find? fun c => "_-+0".toList.contains c
     upper := signs.contains '^', swaps := signs.contains '#'
     width := if digits.isEmpty then none else some (min (((String.ofList digits).toNat?).getD 0) 2147483647)
     modifier, letter, colons
     text := '%' :: cs.take (cs.length - rest.length) }, rest)

/-- Fills in a form. Years have a filler and a width of their own in a form that stands for a date.
The number bounds how many directives there are. -/
def fill (upper : Bool) (yearFiller : Option Char) (firstWidth : Option Nat) :
    List Char → Nat → String
  | [], _ | _, 0 => ""
  | '%' :: cs, fuel + 1 =>
    let (d, rest) := directive cs
    -- A percent sign that ends a directive without a meaning begins another one.
    let meant := meaning p d
    let splits := d.letter == '%' && meant.isNone
    let rest := if splits then '%' :: rest else rest
    let d := if splits then { d with text := d.text.dropLast } else d
    let d := { d with upper := d.upper || upper, width := d.width.or firstWidth }
    let more := fill upper yearFiller none rest fuel
    let shown := match meant with
      | none => padded d.filler d.width (inCase { d with letter := ' ' } (String.ofList d.text))
      | some (.text text) => padded d.filler d.width (inCase d text)
      | some (.fixed form) =>
        padded d.filler d.width (inCase d (fill false none none form.toList fuel))
      | some (.form form) =>
        if d.letter == 'F' then
          let (filler, width) : Option Char × Nat := match d.filler, d.width with
            | none, none => (some '+', 4)
            | filler, width => (filler, width.getD 0 - 6)
          padded filler none (fill d.upper filler (some width) form.toList fuel)
        else padded d.filler d.width (fill d.upper d.filler none form.toList fuel)
      | some (.number n digits own) =>
        let text := toString n.natAbs
        if d.modifier == some 'O' && 0 ≤ n then
          padded d.filler d.width (signed own digits "" text)
        else signed (d.filler.or (own.or (some '0'))) (d.width.getD digits) (if n < 0 then "-" else "") text
      | some (.years n digits) =>
        let text := toString n.natAbs
        let filler := d.filler.or yearFiller
        if d.modifier == some 'O' && 0 ≤ n then padded d.filler d.width (signed (some '0') digits "" text)
        else
          let far := (if digits == 2 then 99 else 9999) < n.natAbs || digits < d.width.getD 0
          let sign := if n < 0 then "-" else if filler == some '+' && far then "+" else ""
          signed (filler.or (some '0')) (d.width.getD digits) sign text
      | some (.offset isMinus digits width) =>
        signed (d.filler.or (some '0')) (d.width.getD width) (if isMinus then "-" else "+") digits
      | some (.fraction n) =>
        let places := d.width.getD 9
        let value := if places < 9 then n / 10 ^ (9 - places) else n
        signed (d.filler.or (some '0')) places "" (toString value)
    shown ++ more
  | c :: cs, fuel + 1 => String.ofList [c] ++ fill upper yearFiller none cs fuel

/-- A date in a form. -/
def shown (form : String) : String := fill p false none none form.toList (form.length + 32)

end
end Form
end PipeShell.Host
