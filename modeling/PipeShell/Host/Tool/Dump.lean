import PipeShell.Host.Tool.Amount
import PipeShell.Host.Tool.Dump.Format
import PipeShell.Host.Tool.Dump.Source
import PipeShell.Host.Tool.Options

/-! # The tool `od`

Bytes are shown in rows, each with the place where it begins, as numbers or as characters; or only
the texts among them are shown that a zero byte ends. -/

namespace PipeShell.Host.Tool

open PipeShell.Host.Number

namespace Dump

/-! ## Options -/

structure Wanted where
  formats : List Format := []
  /-- The base of places, and nothing if they are not shown. -/
  radix : Option Nat := some 8
  width : Option Nat := none
  /-- Whether rows that are like the one before are shown. -/
  showsAll : Bool := false
  /-- Whether the first byte of a number is its greatest one. -/
  swaps : Bool := false
  skip : Nat := 0
  limit : Option Nat := none
  /-- The least length of the texts that alone are shown. -/
  textSize : Option Nat := none
  /-- Whether there is an option that operands without a name do not go together with. -/
  isModern : Bool := false
  /-- Whether operands are read the old way all the same. -/
  isTraditional : Bool := false
  /-- The place that the first byte has in a second count. -/
  label : Option Nat := none
  hasMistake : Bool := false

def switches : List Switch := [
  .letter 'A' "address-radix" .required, .letter 'j' "" .required, ⟨"skip-bytes", "skip-bytes", .required⟩,
  .letter 'N' "" .required, ⟨"read-bytes", "read-bytes", .required⟩, .letter 't' "format" .required,
  .letter 'v' "output-duplicates" .none, .letter 'w' "" .optional, ⟨"width", "width", .optional⟩,
  ⟨"endian", "endian", .required⟩, .letter 'S' "" .required, ⟨"strings", "strings", .optional⟩,
  ⟨"traditional", "traditional", .none⟩] ++ shorthands.map fun (key, _) => ⟨key, "", .none⟩

/-- An option as messages show it. -/
def optionOf (key : String) : String := (if key.length == 1 then "-" else "--") ++ key

/-- An amount in any base. -/
def amountOf (key text : String) : Tool Nat :=
  match Amount.readIn 0 false "bEGKkMmPTYZ0" text with
  | .ok n => return n.toNat
  | .error mistake => refuseArgument 1 (optionOf key) text mistake

/-- The width of a row. A width of zero ends the tool at once. -/
def widthOf (key text : String) : Tool Nat := do
  match Amount.read false "" text with
  | .error mistake => refuseArgument 1 (optionOf key) text mistake
  | .ok n =>
    if n == 0 then
      let _ ← act (Act.send (← act Act.pid) 6)
    return n.toNat

def addFormats (w : Wanted) (text : String) : Tool Wanted := do
  match formatsOf text text.toList w.formats (text.length + 1) with
  | .ok formats => return { w with formats }
  | .error mistake =>
    warn mistake
    return { w with hasMistake := true }

def radixOf (text : String) : Tool (Option Nat) :=
  match text.toList with
  | 'd' :: _ => return some 10
  | 'o' :: _ => return some 8
  | 'x' :: _ => return some 16
  | 'n' :: _ => return none
  | cs =>
    fail 1 ("invalid output address radix '" ++ String.ofList (if cs.isEmpty then ['\x00'] else cs.take 1) ++
      "'; it must be one character from [doxn]")

def addOption (w : Wanted) (given : Given) : Tool Wanted := do
  let (key, value) := given
  let text := value.getD ""
  match shorthands.lookup key with
  | some (form, size) => return { w with formats := w.formats ++ [{ form, size }] }
  | none =>
    if key == "traditional" then return { w with isTraditional := true }
    if key == "endian" then
      return { w with swaps := ← choose "--endian" [("little", false), ("big", true)] text }
    let w := { w with isModern := true }
    match key with
    | "t" => addFormats w text
    | "v" => return { w with showsAll := true }
    | "A" => return { w with radix := ← radixOf text }
    | "j" | "skip-bytes" => return { w with skip := ← amountOf key text }
    | "N" | "read-bytes" => return { w with limit := some (← amountOf key text) }
    | "w" | "width" => return { w with width := some (← value.elim (pure 32) (widthOf key)) }
    | _ =>
      let n ← value.elim (pure 3) (amountOf key)
      if 2 ^ 64 - 1 ≤ n then fail 1 (quote text ++ " is too large")
      return { w with textSize := some n }

/-! ## Operands -/

/-- A place that is given as an operand: in base eight, in base ten with a point behind, or in base
sixteen. -/
def place? (text : String) : Option Nat := do
  let cs := if text.startsWith "+" then text.toList.drop 1 else text.toList
  if text.isEmpty then none
  let base :=
    if cs.contains '.' then 10
    else if cs.head? == some '0' && ((cs.drop 1).head?.map Char.toLower) == some 'x' then 16
    else 8
  match Amount.readIn base false "Bb" (String.ofList cs) with
  | .ok n => some n.toNat
  | .error _ => none

/-- What the operands say that do not name files, and the files. -/
def takePlaces (w : Wanted) (names : List String) : Wanted × List String :=
  if w.isModern && !w.isTraditional then (w, names)
  else
    let starts (test : Char → Bool) (text : String) : Bool := text.toList.head?.any test
    match names with
    | [a] =>
      match (if w.isTraditional || starts (· == '+') a then place? a else none) with
      | some skip => ({ w with skip }, [])
      | none => (w, names)
    | [a, b] =>
      let isPlace := w.isTraditional || starts (fun c => c == '+' || c.isDigit) b
      match (if w.isTraditional then place? a else none), (if isPlace then place? b else none) with
      | some skip, some label => ({ w with skip, label := some label }, [])
      | none, some skip => ({ w with skip }, [a])
      | _, none => (w, names)
    | [a, b, c] =>
      match (if w.isTraditional then place? b else none), place? c with
      | some skip, some label => ({ w with skip, label := some label }, [a])
      | _, _ => (w, names)
    | _ => (w, names)

/-! ## Rows -/

/-- How many digits of a place there are at least. -/
def placeWidth (w : Wanted) : Nat :=
  match w.radix with
  | none => if w.label.isSome then 7 else 0
  | some base => if base == 16 then 6 else 7

/-- The place of a byte, and in parentheses the one of the second count. That is left out, but not its
parentheses, where places are not shown. -/
def place (w : Wanted) (n : Nat) : String :=
  let digits (n : Nat) : String :=
    let letter := if w.radix == some 16 then 'x' else if w.radix == some 10 then 'u' else 'o'
    Conversion.unsigned { precision := some (placeWidth w) } letter (n % 2 ^ 64)
  match w.radix, w.label with
  | none, none => ""
  | none, some _ => "(" ++ digits n ++ ")"
  | some _, none => digits n
  | some _, some label => digits n ++ " (" ++ digits (n + 2 ^ 64 + label - w.skip) ++ ")"

def filled (width : Nat) (text : String) : String :=
  String.ofList (List.replicate (width - text.length) ' ') ++ text

/-- A row of one size: its formats, and how wide all numbers are with a blank in front of each. -/
structure Layout where
  rowSize : Nat
  /-- How many bytes all formats together show in whole numbers. -/
  unit : Nat
  width : Nat

def unitOf (formats : List Format) : Nat := (formats.map (·.size)).foldl Nat.lcm 1

def layoutOf (formats : List Format) (rowSize : Nat) : Layout where
  rowSize
  unit := unitOf formats
  width := (formats.map fun f => (f.width + 1) * (rowSize / f.size)).foldl max 0

/-- The bytes in pieces of a size, the last one filled up with zeros. -/
def pieces (size : Nat) (bytes : List UInt8) : Nat → List (List UInt8)
  | 0 => []
  | fuel + 1 =>
    if bytes.isEmpty then []
    else
      let piece := bytes.take size
      (piece ++ List.replicate (size - piece.length) 0) :: pieces size (bytes.drop size) fuel

/-- The numbers of a row in one format. What the row is wider than they are stands in front of them
in even parts. -/
def numbers (l : Layout) (swaps : Bool) (f : Format) (row : List UInt8) : String :=
  let fields := l.rowSize / f.size
  let pad := l.width - f.width * fields
  let column (i : Nat) : Nat := pad * (fields - i) / fields - pad * (fields - i - 1) / fields + f.width
  let parts := (pieces f.size row row.length).zipIdx.map fun (piece, i) =>
    filled (column i) (shown f (if swaps then piece.reverse else piece))
  let text := String.join parts
  if f.trailer then
    let blank := (l.rowSize - row.length) / f.size
    let missing := blank * f.width + pad * blank / fields
    let visible (b : UInt8) : Char := if isVisible b then Char.ofNat b.toNat else '.'
    text ++ filled missing "" ++ "  >" ++ String.ofList (row.map visible) ++ "<"
  else text

def rowText (w : Wanted) (l : Layout) (start : Nat) (row : List UInt8) : String :=
  String.join (w.formats.zipIdx.map fun (f, i) =>
    (if i == 0 then place w start else filled (placeWidth w) "") ++ numbers l w.swaps f row ++ "\n")

/-- The rows that have been shown. -/
structure Shown where
  /-- The last row, and the one before it. -/
  last : Option ByteArray := none
  former : ByteArray := .empty
  /-- Whether the last row was like the one before. -/
  isRepeated : Bool := false

/-- Shows a row. A full row like the one before is left out, and so are those after it. -/
def showRow (w : Wanted) (l : Layout) (s : Shown) (start : Nat) (row : ByteArray) : Tool Shown := do
  let isRepeated := !w.showsAll && s.last == some row && row.size == l.rowSize
  if isRepeated then
    if !s.isRepeated then print "*\n"
  else put (rowText w l start row.toList).toUTF8
  return { last := some row, former := s.last.getD .empty, isRepeated }

/-- Shows all rows from a place on, up to another one. After a file that could not be read there are
no more of them, but the one before the last is shown again. -/
def showRows (w : Wanted) (l : Layout) (stop : Option Nat) (s : Shown) (source : Source) (start : Nat) :
    Nat → Tool (Nat × Source)
  | 0 => return (start, source)
  | fuel + 1 => do
    let count := stop.elim l.rowSize fun stop => min l.rowSize (stop - start)
    if count == 0 then return (start, source)
    let (row, source) ← source.take count .empty Act.manyReads
    if row.isEmpty then return (start, source)
    let s ← showRow w l s start row
    let next := start + row.size
    if row.size < l.rowSize then return (next, source)
    if source.hasFailed then
      let blank : ByteArray := ⟨Array.replicate l.rowSize 0⟩
      let _ ← showRow w l s next (if s.former.isEmpty then blank else s.former)
      return (next + l.rowSize, source)
    showRows w l stop s source next fuel

/-! ## Texts -/

/-- Shows the texts of at least some length that a zero byte ends, or the place where to stop. -/
def showTexts (w : Wanted) (least : Nat) (stop : Option Nat) (run : List UInt8) (source : Source)
    (start : Nat) : Nat → Tool Source
  | 0 => return source
  | fuel + 1 => do
    let found (start : Nat) (source : Source) : Tool Source := do
      let text := ByteArray.mk run.reverse.toArray
      let address := place w (start + 2 ^ 64 - run.length - 1)
      put ((address ++ (if address.isEmpty then "" else " ")).toUTF8 ++ text ++ "\n".toUTF8)
      showTexts w least stop [] source start fuel
    if run.isEmpty && stop.any fun stop => stop < least || stop - least ≤ start then
      source.leave none
    else if least ≤ run.length && stop.any (· ≤ start) then found start source
    else
      let (byte, source) ← source.next
      match byte with
      | none => return source
      | some b =>
        if isVisible b then showTexts w least stop (b :: run) source (start + 1) fuel
        else if b == 0 && least ≤ run.length then found (start + 1) source
        else showTexts w least stop [] source (start + 1) fuel

end Dump

open Dump in
def od (call : Call) : Tool Nat := do
  let (p, w) ← parseInto switches false 1 call.operands {} addOption
  if w.hasMistake then return 1
  if w.textSize.isSome && !w.formats.isEmpty then fail 1 "no type may be specified when dumping strings"
  let (w, names) := takePlaces w p.operands
  if let (true, _ :: extra :: _) := (w.isTraditional, names) then
    warn ("extra operand " ++ quote extra)
    misuse 1 "compatibility mode supports at most one file"
  let stop := w.limit.map (w.skip + ·)
  if stop.any (2 ^ 64 ≤ ·) then fail 1 "skip-bytes + read-bytes is too large"
  let w := if w.formats.isEmpty then { w with formats := [{ form := .octal, size := 2 }] } else w
  let source : Source := { files := [], isExact := w.limit.isSome && w.textSize.isNone }
  let source ← source.openNext (orInput names)
  let hasFailed := source.hasFailed
  if source.fd.isNone then return 1
  let (missing, source) ← { source with hasFailed := false }.skip w.skip Act.manyReads
  if missing != 0 then fail 1 "cannot skip past end of combined input"
  let hasFailed := hasFailed || source.hasFailed
  let source := { source with hasFailed := false }
  let unit := unitOf w.formats
  let rowSize ← match w.width with
    | none => pure (if unit < 16 then unit * (16 / unit) else unit)
    | some n =>
      if n % unit == 0 then pure n
      else do
        warn ("warning: invalid width " ++ toString n ++ "; using " ++ toString unit ++ " instead")
        pure unit
  let source ← match w.textSize with
    | some least => showTexts w least stop [] source w.skip Act.manyReads
    | none =>
      let (last, source) ← showRows w (layoutOf w.formats rowSize) stop {} source w.skip Act.manyReads
      let address := place w last
      print (if address.isEmpty then "" else address ++ "\n")
      pure source
  return if hasFailed || source.hasFailed then 1 else 0

end PipeShell.Host.Tool
