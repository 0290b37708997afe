import PipeShell.Host.FileSystem.Change
import PipeShell.Host.Tool.Chance
import PipeShell.Host.Tool.Options

/-! # The tool `mktemp`

A file or a directory is made under a name that chance completes. -/

namespace PipeShell.Host.Tool

namespace Temporary

/-- A name that is to be completed: what stands in front of the open places, how many there are, and
what stands behind. -/
structure Template where
  before : String
  places : Nat
  after : String

namespace Template

variable (t : Template)

def text : String := t.before ++ String.ofList (List.replicate t.places 'X') ++ t.after

end Template

/-- Cuts a template at its last open places. What it may end with besides was said or stands behind
them. -/
def ofText (text : String) (suffix : Option String) : Tool Template := do
  let (stem, after) : List Char × String ← match suffix with
    | some suffix =>
      if text.toList.getLast? != some 'X' then
        fail 1 ("with --suffix, template " ++ quote text ++ " must end in X")
      pure (text.toList, suffix)
    | none =>
      let behind := text.toList.reverse.takeWhile (· != 'X')
      if behind.length == text.length then pure (text.toList, "")
      else pure (text.toList.take (text.length - behind.length), String.ofList behind.reverse)
  if after.toList.contains '/' then
    fail 1 ("invalid suffix " ++ quote after ++ ", contains directory separator")
  let places := (stem.reverse.takeWhile (· == 'X')).length
  if places < 3 then
    fail 1 ("too few X's in template " ++ quote (String.ofList stem ++ after))
  return { before := String.ofList (stem.take (stem.length - places)), places, after }

def letters : List Char := "abcdefghijklmnopqrstuvwxyzABCDEFGHIJKLMNOPQRSTUVWXYZ0123456789".toList

/-- Completes a template. -/
def complete (t : Template) (c : Chance) : String × Chance :=
  let (cs, c) := (List.range t.places).foldl
    (fun ((cs, c) : List Char × Chance) _ => match c.draw letters.length with
      | some (i, c) => (letters.getD i 'a' :: cs, c)
      | none => ('a' :: cs, c))
    ([], c)
  (t.before ++ String.ofList cs ++ t.after, c)

/-- Makes the node that a name stands for, or looks whether it could be made. -/
def make (isDirectory isDry : Bool) (name : String) : Tool (Except Errno Unit) := do
  if isDry then
    match ← files fun fs cwd => fs.resolve cwd name false with
    | .ok _ => return .error .fileExists
    | .error e => return if e = .notFound then .ok () else .error e
  else if isDirectory then
    let mode ← act (Act.maskedMode 0o700)
    changeFiles fun fs cwd => fs.makeDirectory cwd name mode
  else
    match ← act (Act.openFile name { read := true, write := true, create := some 0o600, exclusive := true }) with
    | .ok fd =>
      act (Act.close fd)
      return .ok ()
    | .error e => return .error e

/-- Tries names until one is free. -/
def attempt (isDirectory isDry : Bool) (t : Template) (c : Chance) : Nat → Tool (Except Errno String)
  | 0 => return .error .fileExists
  | tries + 1 => do
    let (name, c) := complete t c
    match ← make isDirectory isDry name with
    | .ok () => return .ok name
    | .error e => if e = .fileExists then attempt isDirectory isDry t c tries else return .error e

/-- A path in a directory. -/
def within (directory name : String) : String :=
  let base := directory.toList
  let bare := name.toList.dropWhile (· == '/')
  if base.isEmpty then name
  else String.ofList (if base.getLast? == some '/' then base else base ++ ['/']) ++ String.ofList bare

/-- The directory that a name is completed in, if it is another one than that of the template. -/
def directoryOf (environment : List String) (p : Parsed) (t : Template) (isDefault : Bool) :
    Tool (Option String) := do
  let said := (p.last? "p").filter (!·.isEmpty)
  let named := (valueIn environment "TMPDIR").filter (!·.isEmpty)
  if p.has "t" then
    if t.text.toList.contains '/' then
      fail 1 ("invalid template, " ++ quote t.text ++ ", contains directory separator")
    return some ((named.or said).getD "/tmp")
  else if p.has "p" || isDefault then
    if t.text.startsWith "/" then
      fail 1 ("invalid template, " ++ quote t.text ++ "; with --tmpdir, it may not be absolute")
    return some ((said.or named).getD "/tmp")
  else return none

/-- More names than are ever tried. -/
def manyTries : Nat := 1000

end Temporary

open Temporary in
def mktemp (call : Call) : Tool Nat := do
  let p ← parse [.letter 'd' "directory" .none, .letter 'p' "" .required, ⟨"p", "tmpdir", .optional⟩,
    .letter 'q' "quiet" .none, .letter 't' "" .none, .letter 'u' "dry-run" .none,
    ⟨"suffix", "suffix", .required⟩, .letter 'V' "" .none] false 1 call.operands
  if 1 < p.operands.length then misuse 1 "too many templates"
  let t ← ofText (p.operands.headD "tmp.XXXXXXXXXX") (p.last? "suffix")
  let t := match ← directoryOf call.environment p t p.operands.isEmpty with
    | some directory => { t with before := within directory t.before }
    | none => t
  let isDirectory := p.has "d"
  match ← attempt isDirectory (p.has "u") t (← Chance.ofHost) manyTries with
  | .ok name =>
    print (name ++ "\n")
    return 0
  | .error e =>
    if !p.has "q" then
      warnOf ("failed to create " ++ (if isDirectory then "directory" else "file") ++ " via template " ++
        quote t.text) e
    return 1

end PipeShell.Host.Tool
