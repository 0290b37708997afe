import PipeShell.Host.Tool.Sorting.Wanted

/-! # Remarks on sorting

What is said of an order before it is applied, and which parts of each line it looks at. -/

namespace PipeShell.Host.Tool
namespace Sorting

/-! ## Keys -/

/-- What is said of keys as a whole while one after the other is looked at. -/
structure Seen where
  /-- Whether some key is a plain or a general number. -/
  plain : Bool := false
  general : Bool := false
  /-- Whether such a key goes over several words. -/
  plainSpans : Bool := false
  generalSpans : Bool := false
  /-- The ways for keys that say nothing themselves, without those that some key has. -/
  unused : Key

/-- Whether blanks may be passed over at one of the two ends. -/
def Key.skips (k : Key) : Bool := k.skipsFirst || k.skipsLast

/-- The way in which characters of a part are left out. -/
def Key.omission (k : Key) : Option Char :=
  if k.has 'd' then some 'd' else if k.has 'i' then some 'i' else none

def Key.isNumber (k : Key) : Bool := k.has 'n' || k.has 'g' || k.has 'h'

/-- What is left of the general ways beside a key. -/
def unusedBeside (general k : Key) : Key :=
  let omits (c : Char) : Bool := c == 'd' || c == 'i'
  { general with
    skipsFirst := general.skipsFirst && !k.skipsFirst
    skipsLast := general.skipsLast && !k.skipsLast
    ways := general.ways.filter fun c =>
      if omits c then general.omission != k.omission else !k.has c }

/-- The way in which an old key is given now. -/
def renewal (k : Key) : String × String :=
  let word := k.firstWord.getD 0
  match k.lastWord with
  | none => (s!"+{word}", s!"-k {word + 1}")
  | some last => (s!"+{word} -{last + 1}", s!"-k {word + 1},{last + 1}")

/-- Says what a reader of a key may not expect. -/
def remarkOnKey (o : Order) (isGeneral : Bool) (number : Nat) (s : Seen) (k : Key) : Tool Seen := do
  let s := { s with
    general := s.general || k.isNumber && k.has 'g'
    plain := s.plain || k.isNumber && !k.has 'g' }
  if k.isOld then
    let (old, new) := renewal k
    warn ("obsolescent key " ++ quote old ++ " used; consider " ++ quote new ++ " instead")
  let isEmpty : Bool := match k.firstWord, k.lastWord with
    | some first, some last => last < first
    | _, _ => false
  if isEmpty then warn s!"key {number} has zero width and will be ignored"
  let skipsAnyway := k.isNumber || k.has 'M'
  let inLine := k.lastWord == some 0 && k.lastChar != 0
  if !isEmpty && !isGeneral && o.separator.isNone && !inLine &&
      ((!k.skipsFirst && !skipsAnyway) || (!k.skipsFirst && k.firstChar != 0) ||
        (!k.skipsLast && k.lastChar != 0)) then
    warn s!"leading blanks are significant in key {number}; consider also specifying 'b'"
  let spans : Bool := match k.lastWord with
    | none => true
    | some last => (k.firstWord.getD 0) < last
  let s ← if !isGeneral && k.isNumber && spans then do
      warn s!"key {number} is numeric and spans multiple fields"
      pure (if k.has 'g' then { s with generalSpans := true } else { s with plainSpans := true })
    else pure s
  return { s with unused := unusedBeside s.unused k }

/-- The letters of ways that no key uses. -/
def unusedLetters (k : Key) : String :=
  let ways := "dfghiMnRrV".toList.filter fun c => k.has c && !(c == 'i' && k.has 'd')
  String.ofList ((if k.skips then ['b'] else []) ++ ways)

/-- Says what a reader of the options may not expect. `hasKeys` tells whether there are keys at all,
and `isGeneral` whether the only one is made of the general ways. -/
def remark (w : Wanted) (o : Order) : Tool Unit := do
  warn "text ordering performed using simple byte comparison"
  let isGeneral := w.keys.isEmpty && !o.keys.isEmpty
  let mut s : Seen := { unused := w.general }
  for (k, i) in o.keys.zipIdx do s ← remarkOnKey o isGeneral (i + 1) s k
  let mut warned := false
  if s.plainSpans || s.generalSpans then
    let treated (what : String) : Tool Unit :=
      warn ("field separator " ++ quote (String.ofList [Char.ofNat ((o.separator.getD 0).toNat)]) ++
        " is treated as a " ++ what ++ " in numbers")
    if o.separator == some 46 then
      treated "decimal point"
      warned := true
    else if o.separator == some 45 then treated "minus sign"
    else if s.generalSpans && o.separator == some 43 then treated "plus sign"
  if (s.plain || s.general) && !warned then
    warn ((if o.separator == some 46 then "" else "note ") ++
      "numbers use '.' as a decimal point in this locale")
  let keeps := o.isStable || o.isUnique
  let hasKeys := !o.keys.isEmpty
  let reverses := s.unused.has 'r'
  if !s.unused.isPlain || (reverses && keeps && hasKeys) then
    let unused := if keeps then s.unused
      else { s.unused with ways := s.unused.ways.filter (· != 'r') }
    let letters := unusedLetters unused
    warn ((if letters.length == 1 then "option '-" else "options '-") ++ letters ++
      (if letters.length == 1 then "' is ignored" else "' are ignored"))
  if reverses && !keeps && hasKeys then warn "option '-r' only applies to last-resort comparison"

/-! ## Lines -/

/-- How many columns bytes take; a tab takes one. -/
def columns (line : ByteArray) (start stop : Nat) : Nat :=
  (line.extract start stop).foldl
    (fun n b => if b == 9 || (32 ≤ b && b != 127) then n + 1 else n) 0

/-- Where the part of a line ends that a number or a month takes. -/
def weightedEnd (k : Key) (line : ByteArray) (start stop : Nat) : Nat :=
  let text := ByteText.ofBytes (line.extract start stop)
  let cs := text.toList
  if k.has 'M' then
    if months.contains (String.ofList ((cs.take 3).map Char.toUpper)) then start + 3 else start
  else if k.has 'g' then
    match Number.Floating.read? .extended cs with
    | some (_, _, rest) => stop - rest.length
    | none => start
  else
    let (_, _, rest) := decimalAt cs
    let used := cs.take (cs.length - rest.length)
    if !used.any Char.isDigit then start
    else
      let unit := k.has 'h' && rest.head?.any fun c => (List.lookup c units).isSome
      stop - rest.length + (if unit then 1 else 0)

/-- The part of a line that a key looks at, as it is shown below the line. -/
def shownPart (o : Order) (k : Option Key) (line : ByteArray) : Nat × Nat :=
  match k with
  | none => (0, line.size)
  | some k =>
    let start := if k.firstWord.isNone then 0 else partStart o.separator k line
    let stop := if k.lastWord.isNone then line.size else partEnd o.separator k line
    if (k.skipsFirst && k.firstWord.isNone) || k.has 'M' || k.isNumber then
      let first := min line.size (skipWhile isBlank line start)
      if stop < start then (first, first)
      else
        let first := min stop first
        (first, if k.has 'M' || k.isNumber then weightedEnd k line first stop else stop)
    else (start, max start stop)

/-- A line with the parts that are looked at marked below it. -/
def annotated (o : Order) (line : ByteArray) : ByteArray :=
  let shown := ByteArray.mk (line.data.map fun b => if b == 9 then 62 else b)
  let last : List (Option Key) := if o.keys.isEmpty || !(o.isStable || o.isUnique) then [none] else []
  let marks := (o.keys.map some ++ last).map fun k =>
    let (start, stop) := shownPart o k line
    let width := columns line start stop
    String.ofList (List.replicate (columns line 0 start) ' ') ++
      (if width == 0 then "^ no match for key" else String.ofList (List.replicate width '_')) ++ "\n"
  (shown.push 10) ++ ByteText.toBytes (String.join marks)

end Sorting
end PipeShell.Host.Tool
