import PipeShell.Host.Tool.Sorting.Remarks

/-! # The tool `sort` -/

namespace PipeShell.Host.Tool

namespace Sorting

/-! ## Files -/

/-- Ends the tool because of a file. -/
def failOn {α : Type} (what name : String) (e : Errno) : Tool α :=
  fail failCode (what ++ ": " ++ quoteName name ++ ": " ++ e.message)

/-- The lines of a file. -/
def readLines (o : Order) (stop : UInt8) (name : String) : Tool (List Line) := do
  match ← openOperand name with
  | .error e => failOn "open failed" name e
  | .ok fd =>
    let (bytes, failure) ← readWhole fd
    closeOperand fd
    match failure with
    | some e => failOn "read failed" name e
    | none => return (linesOf stop bytes).1.toList.map o.line

/-- Ends the tool if a file is not there. -/
def checkInputs (names : List String) : Tool Unit := do
  for name in names do
    if name != "-" then
      match ← files fun fs cwd => fs.resolve cwd name true with
      | .ok _ => pure ()
      | .error e => failOn "cannot read" name e

/-- The names in a file, each ended by a zero byte. -/
def namesIn (list : String) : Tool (List String) := do
  match ← openOperand list with
  | .error e => failOn "open failed" list e
  | .ok fd =>
    let (bytes, failure) ← readWhole fd
    closeOperand fd
    if failure.isSome then fail failCode ("cannot read file names from " ++ shellQuoted list)
    let names := (linesOf 0 bytes).1.toList.map ByteText.ofBytes
    if names.isEmpty then fail failCode ("no input from " ++ shellQuoted list)
    for (name, i) in names.zipIdx do
      if name == "-" then
        fail failCode ("when reading file names from stdin, no file name of " ++ shellQuoted name ++ " allowed")
      if name.isEmpty then
        fail failCode (quoteName list ++ s!":{i + 1}: invalid zero-length file name")
    return names

end Sorting

open Sorting in
def sort (call : Call) : Tool Nat := do
  let manner : Manner := {
    takesOld := !plusIsName call.environment, isStrict := (← get).isStrict }
  let (p, w) ← parseInto switches false failCode (renewed manner call.operands) {} addOption
  let stop : UInt8 := if p.has "z" then 0 else 10
  let names ← match p.last? "files0-from", p.operands with
    | none, operands => pure (orInput operands)
    | some list, [] => namesIn list
    | some _, extra :: _ =>
      warn ("extra operand " ++ shellQuoted extra)
      note "file operands cannot be combined with --files0-from\n"
      tryHelp failCode
  let o ← orderOf w p
  let debugs := p.has "debug"
  if debugs then
    let refused := w.check.or (w.output.map fun _ => 'o')
    if let some c := refused then
      fail failCode ("options " ++ quote ("-" ++ String.ofList [c] ++ " --debug") ++ " are incompatible")
    remark w o
  if let some check := w.check then
    match names with
    | name :: extra :: _ =>
      let _ := name
      fail failCode ("extra operand " ++ shellQuoted extra ++ " not allowed with -" ++ String.ofList [check])
    | _ => pure ()
    if p.has "o" then
      fail failCode ("options " ++ quote ("-" ++ String.ofList [check, 'o']) ++ " are incompatible")
    let name := names.headD "-"
    let lines ← readLines o stop name
    match o.disorder? lines with
    | none => return 0
    | some (number, line) =>
      if check == 'c' then
        note ((← get).name ++ ": " ++ name ++ ":" ++ toString number ++ ": disorder: ")
        let _ ← act (Act.write 2 (line.text.push stop))
      return 1
  checkInputs names
  let target : Option Nat ← match p.last? "o" with
    | none => pure none
    | some name => match ← act (Act.openFile name { write := true, create := some 0o666 }) with
      | .ok fd => pure (some fd)
      | .error e => failOn "open failed" name e
  let mut parts : Array (List Line) := #[]
  for name in names do parts := parts.push (← readLines o stop name)
  let lines :=
    if p.has "m" then parts.foldl (fun all part => List.merge all part o.le) []
    else parts.toList.flatten.mergeSort o.le
  let lines := if o.isUnique then o.dropRepeats lines else lines
  if let some fd := target then
    let _ ← act (Act.call fun w => ((), match w.nodeAt? fd with
      | some (i, _) => { w with files := w.files.truncated i }
      | none => w))
    let _ ← act (Act.call (World.duplicate fd 1))
  for line in lines do put (if debugs then annotated o line.text else line.text.push stop)
  return 0

end PipeShell.Host.Tool
