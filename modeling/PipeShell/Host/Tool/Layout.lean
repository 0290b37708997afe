import PipeShell.Host.Tool.Amount
import PipeShell.Host.Tool.Options

/-! # The tools `fold`, `expand` and `unexpand`

They break lines, and put blanks in the place of tabs or tabs in the place of blanks. -/

namespace PipeShell.Host.Tool

/-- Goes through the bytes of all inputs in turn. -/
def throughBytes {σ : Type} (step : σ × ByteArray → UInt8 → σ × ByteArray) (names : List String) (s : σ) :
    Tool (σ × Nat) := do
  let mut state := s
  let mut code := 0
  for name in orInput names do
    match ← openOperand name with
    | .error e =>
      warnOf (quoteName name) e
      code := 1
    | .ok fd =>
      let (after, failure) ← forBlocks fd Act.blockSize
        (fun s block => do
          let (s, out) := block.foldl step (s, .empty)
          put out
          return (s, false))
        state Act.manyReads
      state := after
      closeOperand fd
      if let some e := failure then
        warnOf (quoteName name) e
        code := 1
  return (state, code)

/-! ## `fold` -/

namespace Folding

structure Wanted where
  width : Nat := 80
  countsBytes : Bool := false
  breaksAtBlanks : Bool := false

/-- The line so far and its width. -/
structure State where
  line : ByteArray := .empty
  column : Nat := 0

def columnAfter (w : Wanted) (column : Nat) (b : UInt8) : Nat :=
  if w.countsBytes then column + 1
  else if b == 8 then column - 1
  else if b == 13 then 0
  else if b == 9 then column + (8 - column % 8)
  else column + 1

def isBlank (b : UInt8) : Bool := b == 32 || b == 9

/-- The position behind the last blank. -/
def afterBlank? (line : ByteArray) : Option Nat :=
  ((List.range line.size).reverse.find? fun i => isBlank (line.get! i)).map (· + 1)

/-- Adds a byte, breaking the line as often as it has to be. -/
def add (w : Wanted) (s : State) (out : ByteArray) (b : UInt8) : Nat → State × ByteArray
  | 0 => (s, out)
  | fuel + 1 =>
    let column := columnAfter w s.column b
    if column ≤ w.width then ({ line := s.line.push b, column }, out)
    else match if w.breaksAtBlanks then afterBlank? s.line else none with
      | some i =>
        let rest := s.line.extract i s.line.size
        let state : State := { line := rest, column := rest.foldl (columnAfter w) 0 }
        add w state ((out ++ s.line.extract 0 i).push 10) b fuel
      | none =>
        if s.line.isEmpty then ({ line := s.line.push b, column }, out)
        else add w {} ((out ++ s.line).push 10) b fuel

def step (w : Wanted) (state : State × ByteArray) (b : UInt8) : State × ByteArray :=
  let (s, out) := state
  if b == 10 then ({}, (out ++ s.line).push 10) else add w s out b (s.line.size + 3)

end Folding

open Folding in
def foldLines (call : Call) : Tool Nat := do
  let digits : List Switch := "0123456789".toList.map fun c => .letter c "" .optional
  let add (w : Wanted) (given : Given) : Tool Wanted := do
    let (key, text) := given
    if key == "b" then return { w with countsBytes := true }
    if key == "s" then return { w with breaksAtBlanks := true }
    let text := (if key == "w" then "" else key) ++ text.getD ""
    let n ← amountWithin false "" 1 (2 ^ 64 - 10) "invalid number of columns" text
    return { w with width := n.toNat }
  let (p, w) ← parseInto ([.letter 'b' "bytes" .none, .letter 's' "spaces" .none,
    .letter 'w' "width" .required] ++ digits) false 1 call.operands {} add
  -- What is left of a line goes out where its input ends.
  let mut code := 0
  for name in orInput p.operands do
    let (s, failed) ← throughBytes (step w) [name] {}
    put s.line
    if failed != 0 then code := 1
  return code

/-! ## Tab stops -/

/-- Where tabs lead: to the stops, and behind those to what is repeated. -/
structure TabStops where
  stops : List Nat := []
  /-- Behind the stops, the multiples of a size. -/
  multiples : Option Nat := none
  /-- Behind the stops, every so many columns after the last one. -/
  steps : Option Nat := none

namespace TabStops

/-- The next stop after a column, if there is one. -/
def next? (t : TabStops) (column : Nat) : Option Nat :=
  let after (size : Nat) : Nat := column + (size - column % size)
  match t.stops, t.multiples, t.steps with
  | [], none, none => some (after 8)
  | [], some size, _ | [], none, some size => some (after size)
  | [size], none, none => some (after size)
  | stops, multiples, steps => match stops.find? (column < ·) with
    | some stop => some stop
    | none => match multiples, steps with
      | some size, _ => some (after size)
      | none, some size => some (column + (size - (column - stops.getLast?.getD 0) % size))
      | none, none => none

/-- What a number in a list of stops is. -/
inductive Kind where
  | stop | multiple | step
  deriving DecidableEq

/-- Adds a number, if there is one. What is repeated can be said only once. -/
def add (t : TabStops) (kind : Kind) : Option Nat → Tool TabStops
  | none => return t
  | some n => match kind with
    | .stop => return { t with stops := t.stops ++ [n] }
    | .multiple => do
      if t.multiples.any (· != 0) then fail 1 "'/' specifier only allowed with the last value"
      return { t with multiples := some n }
    | .step => do
      if t.steps.any (· != 0) then fail 1 "'+' specifier only allowed with the last value"
      return { t with steps := some n }

/-- Reads a list of stops. After a mistake in a number the others are looked at. -/
def addList (t : TabStops) (kind : Kind) (digits : List Char) (ok : Bool) : List Char → Tool TabStops
  | [] => do
    if !ok then throw 1
    t.add kind (number? digits)
  | c :: cs => do
    let text := quote (String.ofList (c :: cs))
    if c == ',' || c == ' ' || c == '\t' then addList (← t.add kind (number? digits)) kind [] ok cs
    else if c == '/' || c == '+' then
      if !digits.isEmpty then warn ("'" ++ String.ofList [c] ++ "' specifier not at start of number: " ++ text)
      addList t (if c == '/' then .multiple else .step) digits (ok && digits.isEmpty) cs
    else if c.isDigit then
      let digits := digits ++ [c]
      let isLast := !cs.head?.any Char.isDigit
      let isFar := isLast && 2 ^ 64 ≤ (number? digits).getD 0
      if isFar then warn ("tab stop is too large " ++ quote (String.ofList digits))
      addList t kind digits (ok && !isFar) cs
    else fail 1 ("tab size contains invalid character(s): " ++ text)
where
  number? (digits : List Char) : Option Nat := (String.ofList digits).toNat?

/-- Ends the tool if a stop is not behind the one before. -/
def checkFrom (last : Nat) : List Nat → Tool Unit
  | [] => return
  | stop :: rest => do
    if stop == 0 then fail 1 "tab size cannot be 0"
    if stop ≤ last then fail 1 "tab sizes must be ascending"
    checkFrom stop rest

def check (t : TabStops) : Tool TabStops := do
  checkFrom 0 t.stops
  if t.multiples.isSome && t.steps.isSome then
    fail 1 "'/' specifier is mutually exclusive with '+'"
  return { t with
    multiples := t.multiples.filter (· != 0), steps := t.steps.filter (· != 0) }

end TabStops

/-! ## `expand` -/

namespace Expanding

structure State where
  column : Nat := 0
  /-- Whether tabs of this line are still replaced. -/
  converts : Bool := true

def step (t : TabStops) (whole : Bool) (state : State × ByteArray) (b : UInt8) : State × ByteArray :=
  let (s, out) := state
  if b == 10 then ({}, out.push 10)
  else if !s.converts then (s, out.push b)
  else
    let converts := whole || b == 32 || b == 9
    if b == 9 then
      let next := (t.next? s.column).getD (s.column + 1)
      let out := (next - s.column).fold (fun _ _ (out : ByteArray) => out.push 32) out
      ({ column := next, converts }, out)
    else if b == 8 then ({ column := s.column - 1, converts }, out.push 8)
    else ({ column := s.column + 1, converts }, out.push b)

end Expanding

def tabSwitches (arity : Arity) : List Switch :=
  "0123456789".toList.map fun c => .letter c "" arity

open Expanding in
def expand (call : Call) : Tool Nat := do
  let add (t : TabStops) (given : Given) : Tool TabStops := do
    let (key, text) := given
    if key == "i" then return t
    t.addList .stop [] true ((if key == "t" then "" else key) ++ text.getD "").toList
  let (p, t) ← parseInto ([.letter 'i' "initial" .none, .letter 't' "tabs" .required] ++
    tabSwitches .optional) false 1 call.operands {} add
  let stops ← t.check
  let (_, code) ← throughBytes (step stops (!p.has "i")) p.operands {}
  return code

/-! ## `unexpand` -/

namespace Unexpanding

structure State where
  column : Nat := 0
  converts : Bool := true
  /-- Blanks of which it is not known yet whether a tab takes their place. -/
  pending : ByteArray := .empty
  /-- Whether one of them stands just in front of a stop. -/
  atStop : Bool := false
  afterBlank : Bool := true

/-- Lets the pending blanks go. -/
def release (s : State) (out : ByteArray) : State × ByteArray :=
  if s.pending.isEmpty then (s, out)
  else
    let pending := if 1 < s.pending.size && s.atStop then s.pending.set! 0 9 else s.pending
    ({ s with pending := .empty, atStop := false }, out ++ pending)

def step (t : TabStops) (whole : Bool) (state : State × ByteArray) (b : UInt8) : State × ByteArray :=
  let (s, out) := state
  let finish (s : State) (out : ByteArray) (b : UInt8) (isBlank : Bool) : State × ByteArray :=
    let (s, out) := release s out
    ({ s with afterBlank := isBlank, converts := s.converts && (whole || isBlank) }, out.push b)
  if b == 10 then
    let (_, out) := release s out
    ({}, out.push 10)
  else if !s.converts then (s, out.push b)
  else if b == 32 || b == 9 then match t.next? s.column with
    | none => finish { s with converts := false } out b true
    | some next =>
      -- A single blank in front of the last stop stays.
      let kept (pending : ByteArray) : ByteArray := if s.atStop then pending.extract 0 1 else .empty
      if b == 9 then
        let pending := if s.pending.isEmpty then s.pending else s.pending.set! 0 9
        finish { s with column := next, pending := kept pending } out 9 true
      else
        let column := s.column + 1
        if s.afterBlank && column == next then
          let pending := if s.pending.isEmpty then (ByteArray.empty.push 9) else s.pending.set! 0 9
          finish { s with column, pending := kept pending } out 9 true
        else ({ s with
          column, pending := s.pending.push b, afterBlank := true
          atStop := s.atStop || column == next }, out)
  else if b == 8 then finish { s with column := s.column - 1 } out b false
  else finish { s with column := s.column + 1 } out b false

end Unexpanding

open Unexpanding in
def unexpand (call : Call) : Tool Nat := do
  let add (state : TabStops × String) (given : Given) : Tool (TabStops × String) := do
    let (t, old) := state
    let (key, text) := given
    if key == "t" then return (← t.addList .stop [] true (text.getD "").toList, old)
    return (t, if key == "," || key.toList.all Char.isDigit then old ++ key else old)
  let (p, t, old) ← parseInto ([.letter 'a' "all" .none, ⟨"first-only", "first-only", .none⟩,
    .letter 't' "tabs" .required, .letter ',' "" .none] ++ tabSwitches .none) false 1 call.operands ({}, "") add
  let stops ← (← t.addList .stop [] true old.toList).check
  let whole := p.hasAny ["a", "t"] && !p.has "first-only"
  let (s, code) ← throughBytes (step stops whole) p.operands {}
  let (_, out) := release s .empty
  put out
  return code

end PipeShell.Host.Tool
