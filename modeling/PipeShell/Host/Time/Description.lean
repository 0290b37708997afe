import PipeShell.Host.Time.Zone
import PipeShell.Power

/-! # Descriptions of dates

A date may be described in many ways: by its parts, by words such as `tomorrow` and by how far it is
from another one. A description is cut into tokens, the tokens are joined to items, and the items
say together which moment is meant. -/

namespace PipeShell.Host
namespace Description

/-! ## Tokens -/

inductive TimeUnit where
  | year | month | day | hour | minute | second
  deriving DecidableEq, Repr

/-- How hours are counted: through the whole day, or through each half of it. -/
inductive Meridian where
  | none | morning | afternoon
  deriving DecidableEq, Repr

inductive Token where
  /-- A number without a sign, and how many digits it has. -/
  | number (n : Int) (digits : Nat)
  /-- A number with a sign. -/
  | signed (isMinus : Bool) (n : Int) (digits : Nat)
  /-- A number with a part behind a point, in nanoseconds. -/
  | fraction (hasSign : Bool) (n : Int)
  | meridian (m : Meridian)
  | month (n : Nat)
  | day (n : Nat)
  | ordinal (n : Int)
  /-- A unit, and how many of it a word stands for. -/
  | timeUnit (u : TimeUnit) (n : Int)
  /-- A word such as `tomorrow`, with the days that it stands for. -/
  | shift (days : Int)
  /-- A word that says in which direction the time is. -/
  | direction (n : Int)
  /-- A zone, with the seconds that it is ahead; the second one has summer time besides. -/
  | zone (ahead : Int)
  | summerZone (ahead : Int)
  /-- The zone of the place itself. -/
  | local (isSummer : Option Bool)
  | summer
  | mark (c : Char)
  deriving DecidableEq, Repr

def minute : Int := 60

def hour : Int := 3600

/-- Whether a word is an abbreviation of three letters, perhaps with a point. -/
def isShort (word : List Char) : Bool := word.length == 3 || (word.length == 4 && word[3]? == some '.')

def units : List (String × TimeUnit × Int) := [("YEAR", .year, 1), ("MONTH", .month, 1),
  ("FORTNIGHT", .day, 14), ("WEEK", .day, 7), ("DAY", .day, 1), ("HOUR", .hour, 1),
  ("MINUTE", .minute, 1), ("MIN", .minute, 1), ("SECOND", .second, 1), ("SEC", .second, 1)]

def relativeWords : List (String × Token) := [("TOMORROW", .shift 1), ("YESTERDAY", .shift (-1)),
  ("TODAY", .shift 0), ("NOW", .shift 0), ("LAST", .ordinal (-1)), ("THIS", .ordinal 0),
  ("NEXT", .ordinal 1), ("FIRST", .ordinal 1), ("THIRD", .ordinal 3), ("FOURTH", .ordinal 4),
  ("FIFTH", .ordinal 5), ("SIXTH", .ordinal 6), ("SEVENTH", .ordinal 7), ("EIGHTH", .ordinal 8),
  ("NINTH", .ordinal 9), ("TENTH", .ordinal 10), ("ELEVENTH", .ordinal 11), ("TWELFTH", .ordinal 12),
  ("AGO", .direction (-1)), ("HENCE", .direction 1)]

/-- Names of days that are neither whole nor short. -/
def moreDays : List (String × Nat) := [("TUES", 2), ("WEDNES", 3), ("THUR", 4), ("THURS", 4)]

def zones : List (String × Int) := [("WET", 0), ("ART", -3), ("BRT", -3), ("AST", -4), ("CLT", -4),
  ("EST", -5), ("CST", -6), ("MST", -7), ("PST", -8), ("AKST", -9), ("HST", -10), ("HAST", -10),
  ("SST", -12), ("WAT", 1), ("CET", 1), ("MET", 1), ("MEZ", 1), ("EET", 2), ("CAT", 2), ("SAST", 2),
  ("EAT", 3), ("MSK", 3), ("SGT", 8), ("KST", 9), ("JST", 9), ("GST", 10), ("NZST", 12)]

def summerZones : List (String × Int) := [("WEST", 0), ("BST", 0), ("BRST", -3), ("ADT", -4),
  ("CLST", -4), ("EDT", -5), ("CDT", -6), ("MDT", -7), ("PDT", -8), ("AKDT", -9), ("HADT", -10),
  ("CEST", 1), ("MEST", 1), ("MESZ", 1), ("EEST", 2), ("MSD", 3), ("NZDT", 12)]

/-- The names that the zone of the place has now and in the next quarters of a year. -/
abbrev LocalNames := List (String × Option Bool)

/-- The zone that a name stands for; the names of the place come before those of others. -/
def zone? (names : LocalNames) (word : String) : Option Token :=
  if ["GMT", "UT", "UTC"].contains word then some (.zone 0)
  else match names.lookup word with
    | some isSummer => some (.local isSummer)
    | none => match zones.lookup word, summerZones.lookup word with
      | some n, _ => some (.zone (n * hour))
      | none, some n => some (.summerZone (n * hour))
      | none, none =>
        if word == "NST" then some (.zone (-(3 * hour + 30 * minute)))
        else if word == "NDT" then some (.summerZone (-(3 * hour + 30 * minute)))
        else if word == "IST" then some (.zone (5 * hour + 30 * minute))
        else none

/-- The zone of a single letter; two letters are not the names of a zone. -/
def letterZone? (c : Char) : Option Token :=
  if c == 'T' || c == 'J' then some (.mark c)
  else if 'A' ≤ c && c ≤ 'I' then some (.zone ((c.toNat - 'A'.toNat + 1 : Nat) * hour))
  else if 'K' ≤ c && c ≤ 'M' then some (.zone ((c.toNat - 'K'.toNat + 10 : Nat) * hour))
  else if 'N' ≤ c && c ≤ 'Y' then some (.zone (-((c.toNat - 'N'.toNat + 1 : Nat) * hour)))
  else if c == 'Z' then some (.zone 0)
  else none

def unit? (word : String) : Option Token := (units.lookup word).map fun (u, n) => .timeUnit u n

/-- The token of a word in capital letters. -/
def word? (names : LocalNames) (word : String) : Option Token :=
  let cs := word.toList
  let named (list : List String) : Option Nat := list.findIdx? fun name =>
    let name := name.map Char.toUpper
    if isShort cs then cs.take 3 == name.toList.take 3 else name == word
  let singular : Option Token :=
    if cs.getLast? == some 'S' then unit? (String.ofList cs.dropLast) else none
  let letter : Option Token := match cs with
    | [c] => letterZone? c
    | _ => none
  let plain : Option Token :=
    if cs.contains '.' then zone? names (String.ofList (cs.filter (· != '.'))) else none
  if word == "AM" || word == "A.M." then some (.meridian .morning)
  else if word == "PM" || word == "P.M." then some (.meridian .afternoon)
  else match named Calendar.months, (if word == "SEPT" then some 8 else none) with
    | some n, _ | none, some n => some (.month (n + 1))
    | none, none => match named Calendar.weekdays, moreDays.lookup word with
      | some n, _ | none, some n => some (.day n)
      | none, none =>
        (zone? names word).or <| (if word == "DST" then some .summer else none).or <|
          (unit? word).or <| singular.or <| (relativeWords.lookup word).or <| letter.or plain

def isBlank (c : Char) : Bool := c == ' ' || (9 ≤ c.toNat && c.toNat ≤ 13)

/-- Times are numbers of 64 bits. -/
def isTime (n : Int) : Bool := -2 ^ 63 ≤ n && n < 2 ^ 63

/-- Leaves out a remark between parentheses, which may hold others. A remark without an end leaves
nothing behind it. -/
def dropRemark : Nat → List Char → List Char
  | _, [] => []
  | depth, '(' :: cs => dropRemark (depth + 1) cs
  | depth, ')' :: cs => if depth ≤ 1 then cs else dropRemark (depth - 1) cs
  | depth, _ :: cs => dropRemark depth cs

def valueOf (digits : List Char) : Nat :=
  digits.foldl (fun n c => 10 * n + (c.toNat - '0'.toNat)) 0

/-- The number that begins here, and what follows it; nothing if it is too large. -/
def numberToken (sign : Option Bool) (cs : List Char) : Option (Token × List Char) :=
  let isMinus := sign == some true
  let digits := cs.takeWhile Char.isDigit
  let rest := cs.drop digits.length
  let n : Int := if isMinus then -(valueOf digits : Int) else valueOf digits
  if !isTime n then none
  else
    let behind := match rest with
      | c :: rest => if c == '.' || c == ',' then rest.takeWhile Char.isDigit else []
      | [] => []
    if behind.isEmpty then match sign with
      | none => some (.number n digits.length, rest)
      | some _ => some (.signed isMinus n digits.length, rest)
    else
      let places := behind.take 9
      let nanos : Nat := valueOf places * 10 ^ (9 - places.length)
      let more := isMinus && (behind.drop 9).any (· != '0')
      let nanos := if more then nanos + 1 else nanos
      let n := n * 1000000000 + (if isMinus then -(nanos : Int) else nanos)
      some (.fraction sign.isSome n, rest.drop (behind.length + 1))

/-- Words are cut off behind so many letters. -/
def maxWord : Nat := 19

/-- Cuts a description into tokens; nothing if there is something else in it. The number bounds how
many tokens there are. -/
def tokens (names : LocalNames) (cs : List Char) : Nat → Option (List Token)
  | 0 => some []
  | fuel + 1 => match cs.dropWhile isBlank with
    | [] => some []
    | '(' :: cs => tokens names (dropRemark 1 cs) fuel
    | c :: cs =>
      if c == '-' || c == '+' then
        let rest := cs.dropWhile isBlank
        if (rest.head?.map Char.isDigit).getD false then do
          let (token, rest) ← numberToken (some (c == '-')) rest
          some (token :: (← tokens names rest fuel))
        -- A sign in front of something else has no meaning.
        else tokens names rest fuel
      else if c.isDigit then do
        let (token, rest) ← numberToken none (c :: cs)
        some (token :: (← tokens names rest fuel))
      else if c.isAlpha then do
        let word := (c :: cs).takeWhile fun c => c.isAlpha || c == '.'
        let token ← word? names (String.ofList ((word.take maxWord).map Char.toUpper))
        some (token :: (← tokens names ((c :: cs).drop word.length) fuel))
      else do some (.mark c :: (← tokens names cs fuel))

/-! ## Items -/

/-- A number, and how many digits it was written with. -/
structure Written where
  n : Int
  digits : Nat := 0

/-- A time that is added to another one. -/
structure Offset where
  year : Int := 0
  month : Int := 0
  day : Int := 0
  hour : Int := 0
  minute : Int := 0
  /-- In nanoseconds. -/
  second : Int := 0

namespace Offset

def ofUnit (u : TimeUnit) (n : Int) : Offset :=
  match u with
  | .year => { year := n }
  | .month => { month := n }
  | .day => { day := n }
  | .hour => { hour := n }
  | .minute => { minute := n }
  | .second => { second := n * 1000000000 }

def add (factor : Int) (a b : Offset) : Offset :=
  { year := a.year + factor * b.year, month := a.month + factor * b.month
    day := a.day + factor * b.day, hour := a.hour + factor * b.hour
    minute := a.minute + factor * b.minute, second := a.second + factor * b.second }

end Offset

/-- What has been read, and how often each kind of item has been there. -/
structure State where
  year : Written
  month : Int
  day : Int
  hour : Int
  minute : Int
  /-- In nanoseconds. -/
  second : Int
  meridian : Meridian := .none
  ahead : Int := 0
  /-- Whether local time is said to be summer time. -/
  isSummer : Option Bool := none
  ordinal : Int := 0
  weekday : Nat := 0
  offset : Offset := {}
  hasOffset : Bool := false
  dates : Nat := 0
  times : Nat := 0
  days : Nat := 0
  summers : Nat := 0
  zones : Nat := 0
  /-- Items that say which local time is meant. -/
  locals : Nat := 0
  /-- Items that say that local time is meant. -/
  here : Nat := 0

namespace State

def addOffset (factor : Int) (o : Offset) (s : State) : State :=
  { s with offset := s.offset.add factor o, hasOffset := true }

def setTime (hour minute second : Int) (meridian : Meridian) (s : State) : State :=
  { s with hour, minute, second, meridian, times := s.times + 1 }

def setDate (year : Written) (month day : Int) (s : State) : State :=
  { s with year, month, day, dates := s.dates + 1 }

def setDay (month day : Int) (s : State) : State := { s with month, day, dates := s.dates + 1 }

def setWeekday (ordinal : Int) (weekday : Nat) (s : State) : State :=
  { s with ordinal, weekday, days := s.days + 1 }

def setZone (ahead : Int) (s : State) : State := { s with ahead, zones := s.zones + 1 }

/-- Takes a number that stands alone: a year, a date or a time, as its digits and what came before
it suggest. -/
def addNumber (n : Int) (digits : Nat) (s : State) : State :=
  if s.dates > 0 && s.year.digits == 0 && !s.hasOffset && (s.times > 0 || 2 < digits) then
    { s with year := ⟨n, digits⟩ }
  else if 4 < digits then
    { s with
      day := n % 100, month := n / 100 % 100, year := ⟨n / 10000, digits - 4⟩, dates := s.dates + 1 }
  else if digits ≤ 2 then s.setTime n 0 0 .none
  else s.setTime (n / 100) (n % 100) 0 .none

/-- The seconds of a difference to universal time: hours, or hours and minutes. -/
def clockZone? (n : Int) (isMinus : Bool) (digits : Nat) (minutes : Option Int) : Option Int :=
  let total := match minutes with
    | some m => n * 60 + (if isMinus then -m else m)
    | none => if digits ≤ 2 then n * 60 else Int.tdiv n 100 * 60 + Int.tmod n 100
  if -1440 ≤ total && total ≤ 1440 then some (total * 60) else none

end State

/-- The minutes behind a colon, if there are any; a colon alone is a mistake. -/
def colonMinutes? : List Token → Option (Option Int × List Token)
  | .mark ':' :: .number m _ :: rest => some (some m, rest)
  | .mark ':' :: _ => none
  | rest => some (none, rest)

/-- The difference to universal time behind a time, if there is one. -/
def zoneOffset? (s : State) : List Token → Option (State × List Token)
  | .signed isMinus n digits :: rest => do
    let (minutes, rest) ← colonMinutes? rest
    some (s.setZone (← State.clockZone? n isMinus digits minutes), rest)
  | rest => some (s, rest)

/-- The rest of a time that begins with an hour and a colon. A date in front of it leaves no room
for halves of a day. -/
def clock? (isDated : Bool) (h : Int) (s : State) : List Token → Option (State × List Token)
  | .number m _ :: .mark ':' :: rest => do
    let (second, rest) ← match rest with
      | .number n _ :: rest => some (n * 1000000000, rest)
      | .fraction false n :: rest => some (n, rest)
      | _ => none
    match rest, isDated with
    | .meridian x :: rest, false => some (s.setTime h m second x, rest)
    | rest, _ => zoneOffset? (s.setTime h m second .none) rest
  | .number m _ :: rest => match rest, isDated with
    | .meridian x :: rest, false => some (s.setTime h m 0 x, rest)
    | rest, _ => zoneOffset? (s.setTime h m 0 .none) rest
  | _ => none

/-- What follows a date that is written with dashes: perhaps a time. -/
def datedTime? (s : State) : List Token → Option (State × List Token)
  | .mark 'T' :: .number h _ :: .mark ':' :: rest => clock? true h s rest
  | .mark 'T' :: .number h _ :: rest => match rest with
    | .signed .. :: _ => zoneOffset? (s.setTime h 0 0 .none) rest
    | _ => none
  | .mark 'T' :: _ => none
  | rest => some (s, rest)

/-- Adds an offset, in the direction that may follow it. -/
def directed (o : Offset) (s : State) : List Token → State × List Token
  | .direction n :: rest => (s.addOffset n o, rest)
  | rest => (s.addOffset 1 o, rest)

/-- The next item. -/
def item? (s : State) : List Token → Option (State × List Token)
  | .number n digits :: rest => match rest with
    | .meridian m :: rest => some (s.setTime n 0 0 m, rest)
    | .mark ':' :: rest => clock? false n s rest
    | .mark '/' :: .number b _ :: .mark '/' :: .number c cDigits :: rest =>
      if 4 ≤ digits then some (s.setDate ⟨n, digits⟩ b c, rest)
      else some (s.setDate ⟨c, cDigits⟩ n b, rest)
    | .mark '/' :: .number _ _ :: .mark '/' :: _ => none
    | .mark '/' :: .number b _ :: rest => some (s.setDay n b, rest)
    | .mark '/' :: _ => none
    | .month m :: .signed _ y yDigits :: rest => some (s.setDate ⟨-y, yDigits⟩ m n, rest)
    | .month m :: .number y yDigits :: rest => some (s.setDate ⟨y, yDigits⟩ m n, rest)
    | .month m :: rest => some (s.setDay m n, rest)
    | .day d :: rest => some (s.setWeekday n d, rest)
    | .timeUnit u k :: rest => some (directed (.ofUnit u (n * k)) s rest)
    | .signed _ m _ :: .signed _ d _ :: rest => datedTime? (s.setDate ⟨n, digits⟩ (-m) (-d)) rest
    | .signed _ m _ :: .timeUnit u k :: rest =>
      some ((s.addNumber n digits).addOffset 1 (.ofUnit u (m * k)), rest)
    | .signed .. :: _ => zoneOffset? (s.setTime n 0 0 .none) rest
    | rest => some (s.addNumber n digits, rest)
  | .signed _ n _ :: .timeUnit u k :: rest => some (directed (.ofUnit u (n * k)) s rest)
  | .fraction _ n :: .timeUnit .second _ :: rest => some (directed { second := n } s rest)
  | .month m :: .signed _ d _ :: .signed _ y yDigits :: rest => some (s.setDate ⟨-y, yDigits⟩ m (-d), rest)
  | .month m :: .number d _ :: .mark ',' :: .number y yDigits :: rest =>
    some (s.setDate ⟨y, yDigits⟩ m d, rest)
  | .month _ :: .number _ _ :: .mark ',' :: _ => none
  | .month m :: .number d _ :: rest => some (s.setDay m d, rest)
  | .day d :: .mark ',' :: rest => some (s.setWeekday 0 d, rest)
  | .day d :: rest => some (s.setWeekday 0 d, rest)
  | .ordinal n :: .day d :: rest => some (s.setWeekday n d, rest)
  | .ordinal n :: .timeUnit u k :: rest => some (directed (.ofUnit u (n * k)) s rest)
  | .timeUnit u k :: rest => some (directed (.ofUnit u k) s rest)
  | .shift n :: rest => some (s.addOffset 1 { day := n }, rest)
  | .zone z :: .signed _ n _ :: .timeUnit u k :: rest =>
    some ((s.setZone z).addOffset 1 (.ofUnit u (n * k)), rest)
  | .zone z :: .signed isMinus n digits :: rest => do
    let (minutes, rest) ← colonMinutes? rest
    some (s.setZone (z + (← State.clockZone? n isMinus digits minutes)), rest)
  | .zone z :: .summer :: rest => some (s.setZone (z + hour), rest)
  | .zone z :: rest => some (s.setZone z, rest)
  | .summerZone z :: rest => some (s.setZone (z + hour), rest)
  | .mark 'T' :: .signed _ n _ :: .timeUnit u k :: rest =>
    some ((s.setZone (-7 * hour)).addOffset 1 (.ofUnit u (n * k)), rest)
  | .mark 'T' :: .signed .. :: _ => none
  | .mark 'T' :: rest => some (s.setZone (-7 * hour), rest)
  | .mark 'J' :: rest => some ({ s with here := s.here + 1 }, rest)
  | .local _ :: .summer :: rest =>
    some ({ s with isSummer := some true, locals := s.locals + 1, summers := s.summers + 1 }, rest)
  | .local isSummer :: rest => some ({ s with isSummer, locals := s.locals + 1 }, rest)
  | _ => none

/-- All items. The number bounds how many there are. -/
def items? (s : State) (ts : List Token) : Nat → Option State
  | 0 => some s
  | fuel + 1 => match ts with
    | [] => some s
    | ts => do
      let (s, rest) ← item? s ts
      items? s rest fuel

/-! ## The moment -/

/-- The hour of the day. -/
def hourOf? (h : Int) : Meridian → Option Int
  | .none => if 0 ≤ h && h < 24 then some h else none
  | .morning => if 0 < h && h < 12 then some h else if h == 12 then some 0 else none
  | .afternoon => if 0 < h && h < 12 then some (h + 12) else if h == 12 then some 12 else none

/-- The year that is meant; of two digits it is one near 2000. -/
def yearOf (y : Written) : Int :=
  if 0 ≤ y.n && y.digits == 2 then y.n + (if y.n < 69 then 2000 else 1900)
  else if y.n < 0 then -y.n else y.n

def isSmall (n : Int) : Bool := -2 ^ 31 ≤ n && n < 2 ^ 31

/-- A day that can be counted with 32 bits for each of its parts. -/
def isCountable (c : Calendar) : Bool :=
  isSmall (c.year - 1900) && isSmall (c.month - 1) && isSmall c.day &&
    isSmall ((Calendar.ofSeconds c.seconds).year - 1900)

/-- The nanoseconds of what has been read, seen from a moment in a zone. -/
def moment? (zone : Zone) (s : State) : Option Int := do
  let kinds := [s.times, s.dates, s.days, s.summers, s.here + s.locals + s.zones]
  if kinds.any (1 < ·) then none
  let timed := s.times > 0 || (s.hasOffset && s.dates == 0 && s.days == 0)
  let h ← if timed then hourOf? s.hour s.meridian else some 0
  let whole := if timed then s.second.fdiv 1000000000 else 0
  let part := if timed then s.second.fmod 1000000000 else 0
  let given : Calendar := {
    year := yearOf s.year, month := s.month, day := s.day, hour := h
    minute := if timed then s.minute else 0, second := whole }
  let isSummer := if s.locals > 0 then s.isSummer else none
  if !isCountable given then none
  -- What is described has to be there: in the zone, or at least in the one that is named.
  let start := zone.moment isSummer given
  if !(zone.calendar start == given || (s.zones > 0 && given.isValid)) then none
  let base := zone.calendar start
  let base := if zone.calendar start == given then base else given
  let base ←
    if s.days > 0 && s.dates == 0 then
      let weekday : Int := base.weekday
      let wanted : Int := s.weekday
      let weeks := s.ordinal - (if 0 < s.ordinal && weekday != wanted then 1 else 0)
      some { base with day := base.day + (wanted - weekday + 7).fmod 7 + weeks * 7 }
    else some base
  if !isCountable base then none
  let base :=
    if s.offset.year != 0 || s.offset.month != 0 || s.offset.day != 0 then
      { base with
        year := base.year + s.offset.year, month := base.month + s.offset.month
        day := base.day + s.offset.day, hour := given.hour, minute := given.minute
        second := given.second : Calendar }
    else base
  if !isCountable base then none
  let start :=
    if base == given then start else zone.moment (if s.locals > 0 then s.isSummer else none) base
  let start := if s.zones > 0 then start + (zone.localTime start).ahead - s.ahead else start
  let total := start + s.offset.hour * 3600 + s.offset.minute * 60
  let sum := part + s.offset.second
  let seconds := total + sum.fdiv 1000000000
  if !isTime seconds then none
  some (seconds * 1000000000 + sum.fmod 1000000000)

/-- The names of a zone around a moment. One name that stands for both kinds of time says nothing
about which is meant. -/
def localNames (zone : Zone) (seconds : Int) : LocalNames :=
  let now := zone.localTime seconds
  let other := [1, 2, 3].findSome? fun quarter : Nat =>
    let probe := zone.localTime (seconds + quarter * 90 * Calendar.secondsOfDay)
    if probe.isSummer != now.isSummer then some probe else none
  match other with
  | none => [(now.name, some now.isSummer)]
  | some other =>
    if other.name == now.name then [(now.name, none)]
    else [(now.name, some now.isSummer), (other.name, some other.isSummer)]

/-- A zone in quotation marks in front of a description, and the description. -/
def zoned (zone : Zone) (cs : List Char) : Option (Zone × List Char) :=
  match cs with
  | 'T' :: 'Z' :: '=' :: '"' :: rest => match name rest with
    | some (name, rest) => some (Zone.ofName (some (String.ofList name)), rest.dropWhile isBlank)
    | none => some (zone, cs)
  | _ => some (zone, cs)
where
  name : List Char → Option (List Char × List Char)
    | [] => none
    | '"' :: rest => some ([], rest)
    | '\\' :: c :: rest =>
      if c == '\\' || c == '"' then (name rest).map fun (cs, rest) => (c :: cs, rest) else none
    | c :: rest => (name rest).map fun (cs, rest) => (c :: cs, rest)

/-- The nanoseconds of a description, seen from a moment in a zone. -/
def read? (zone : Zone) (now : Int) (text : String) : Option Int := do
  let (zone, cs) ← zoned zone (text.toList.dropWhile isBlank)
  let cs := if cs.isEmpty then ['0'] else cs
  let seconds := now.fdiv 1000000000
  let c := zone.calendar seconds
  let ts ← tokens (localNames zone seconds) cs (cs.length + 1)
  match ts with
  | [.mark '@', .number n _] | [.mark '@', .signed _ n _] => some (n * 1000000000)
  | [.mark '@', .fraction _ n] => some n
  | ts =>
    let start : State := {
      year := ⟨c.year, 0⟩, month := c.month, day := c.day, hour := c.hour, minute := c.minute
      second := c.second * 1000000000 + now.fmod 1000000000 }
    let s ← items? start ts (ts.length + 1)
    moment? zone s

/-! ## Digits -/

/-- The moment of month, day, hour and minute in digits, perhaps with a year in front of them or
behind them, and with seconds behind a point. -/
def ofDigits? (zone : Zone) (yearLast : Bool) (now : Int) (text : String) : Option Int := do
  let (main, second) ← match text.splitOn "." with
    | [main] => some (main, 0)
    | [main, tail] =>
      if tail.length == 2 && tail.toList.all Char.isDigit then some (main, valueOf tail.toList) else none
    | _ => none
  let cs := main.toList
  if !cs.all Char.isDigit then none
  if cs.length < 8 || 12 < cs.length || cs.length % 2 != 0 then none
  let size := cs.length - 8
  let (digits, cs) := if yearLast then (cs.drop 8, cs.take 8) else (cs.take size, cs.drop size)
  let n : Int := valueOf digits
  let year := match size with
    | 0 => (zone.calendar (now.fdiv 1000000000)).year
    | 2 => if n < 69 then 2000 + n else 1900 + n
    | _ => n
  let part (i : Nat) : Int := valueOf ((cs.drop (2 * i)).take 2)
  let c : Calendar := {
    year, month := part 0, day := part 1, hour := part 2, minute := part 3, second := second }
  -- The clocks may show a sixtieth second, which is the first one of the next minute.
  let isLeap := second == 60
  let shown := if isLeap then { c with second := 59 } else c
  let start := zone.moment none shown
  if zone.calendar start != shown then none
  some ((if isLeap then start + 1 else start) * 1000000000)

end Description
end PipeShell.Host
