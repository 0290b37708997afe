import PipeShell.Host.Tool.Options

/-! # Lists of names

A tool may be told the names of its files in another file, where each is ended by a zero byte. -/

namespace PipeShell.Host.Tool

/-- The names in a file, and what prevented more from being read. -/
structure NameList where
  /-- The file that holds them. -/
  source : String
  names : List String
  failure : Option Errno := none
  /-- Whether the names are all known before the first is looked at. -/
  isKnown : Bool := false

namespace NameList

/-- Reads the names in a file. There may be no other operand. -/
def read (source : String) (operands : List String) : Tool NameList := do
  if let extra :: _ := operands then
    warn ("extra operand " ++ shellQuoted extra)
    note "file operands cannot be combined with --files0-from\n"
    tryHelp 1
  match ← openOperand source with
  | .error e => fail 1 ("cannot open " ++ shellQuoted source ++ " for reading: " ++ e.message)
  | .ok fd =>
    let isKnown := (← regularAt? fd).isSome
    let (bytes, failure) ← readWhole fd
    closeOperand fd
    return { source, names := (linesOf 0 bytes).1.toList.map ByteText.ofBytes, failure, isKnown }

/-- Says what is wrong with a name, which is the one of that number; whether it can be used. -/
def accepts (list : NameList) (name : String) (number : Nat) : Tool Bool := do
  if list.source == "-" && name == "-" then
    warn ("when reading file names from stdin, no file name of " ++ shellQuoted name ++ " allowed")
    return false
  if name.isEmpty then
    warn (quoteName list.source ++ s!":{number}: invalid zero-length file name")
    return false
  return true

end NameList
end PipeShell.Host.Tool
