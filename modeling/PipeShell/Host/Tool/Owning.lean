import PipeShell.Host.Accounts
import PipeShell.Host.Tool.Copying

/-! # Giving files away

Each file belongs to a user and to a group; both can be changed, for a file alone or for all that is
below it. -/

namespace PipeShell.Host.Tool
namespace Owning

open Copying (Following inspect Found)

/-- A user and a group as they are given: their numbers, and what they are called in messages. -/
structure Spec where
  owner : Option Nat := none
  group : Option Nat := none
  ownerName : Option String := none
  groupName : Option String := none

inductive Mistake where
  | user | group | spec
  /-- A point stands where a colon is meant. -/
  | point (spec : Spec)

def Mistake.message : Mistake → String
  | .user => "invalid user"
  | .group => "invalid group"
  | .spec => "invalid spec"
  | .point _ => "warning: '.' should be ':'"

/-- The number of a user that is named or given by number. -/
def ownerNumber? (text : String) : Option Nat :=
  let named := if text.startsWith "+" then none else Accounts.userNamed? text
  (named.map (·.number)).or (Accounts.numberOf? text)

def groupNumber? (text : String) : Option Nat :=
  let named := if text.startsWith "+" then none else Accounts.groupNamed? text
  (named.map (·.number)).or (Accounts.numberOf? text)

/-- Reads a user and, behind a separator, a group. A separator alone stands for the group of the
user. -/
def specOf (user : String) (group : Option String) : Except Mistake Spec := do
  let spec : Spec ←
    if user.isEmpty then pure {}
    else match group with
      | some "" => match (if user.startsWith "+" then none else Accounts.userNamed? user) with
        | some u => pure {
            owner := some u.number, group := some u.group, ownerName := some user
            groupName := some (Accounts.groupText u.group) }
        | none => throw .spec
      | _ => match ownerNumber? user with
        | some n => pure { owner := some n, ownerName := some user }
        | none => throw .user
  match group with
  | none | some "" => return spec
  | some group => match groupNumber? group with
    | some n =>
      let isNamed := (Accounts.groupNamed? group).isSome
      return { spec with group := some n, groupName := if isNamed then some group else none }
    | none => throw .group

/-- The parts of a text in front of a character and behind it. -/
def cutAt (c : Char) (text : String) : String × Option String :=
  let (before, after) := text.toList.span (· != c)
  (String.ofList before, if after.isEmpty then none else some (String.ofList (after.drop 1)))

/-- Reads a user and a group. The separator is a colon; where that makes no sense it may be a
point. -/
def Spec.ofString (text : String) : Except Mistake Spec :=
  match cutAt ':' text with
  | (user, some group) => specOf user (some group)
  | (user, none) => match specOf user none with
    | .ok spec => .ok spec
    | .error mistake => match cutAt '.' text with
      | (user, some group) => match specOf user (some group) with
        | .ok spec => .error (.point spec)
        | .error _ => .error mistake
      | _ => .error mistake

/-- A user and a group as messages show them. -/
def together : Option String → Option String → String
  | some user, some group => user ++ ":" ++ group
  | some user, none => user
  | none, some group => group
  | none, none => ""

inductive Verbosity where
  | silent | changes | all
  deriving DecidableEq

structure Wanted where
  spec : Spec
  /-- The user and the group that a file has to belong to. -/
  required : Spec := {}
  recursive : Bool
  following : Following
  /-- Whether links stand for what they lead to. -/
  refers : Bool
  verbosity : Verbosity
  quiet : Bool
  keepsRoot : Bool

/-- Says what became of a file. -/
def describe (w : Wanted) (path : String) (node : Option Node) (failed changed : Bool) : Tool Unit := do
  let s := w.spec
  let user := s.ownerName.or (s.owner.map toString)
  let group := s.groupName.or (s.group.map toString)
  let thing (owned grouped : Message) : Message :=
    if user.isSome then owned else if group.isSome then grouped else owned
  let what := thing "ownership of " "group of " ++ shellQuoted path
  let hasNew := user.isSome || group.isSome
  let new := together user group
  let old := node.map fun n => together
    (if user.isSome then some (Accounts.userText n.owner) else none)
    (if group.isSome then some (Accounts.groupText n.group) else none)
  if failed then
    let tail : Message := if !hasNew then ""
      else match old with
        | some old => " from " ++ old ++ " to " ++ new
        | none => " to " ++ new
    print ("failed to change " ++ what ++ tail ++ "\n")
  else if changed then
    if hasNew then print ("changed " ++ what ++ " from " ++ old.getD "" ++ " to " ++ new ++ "\n")
    else print ("no change to " ++ what ++ "\n")
  else print (what ++ " retained" ++ (if hasNew then " as " ++ old.getD "" else "") ++ "\n")

/-- Gives what a path names away. The link itself is looked at first. -/
def give (w : Wanted) (path : String) (found : Found) : Tool Bool := do
  let target : Except Errno Found ←
    if w.refers && found.isLink then inspect path true else pure (.ok found)
  let isRoot := match target with
    | .ok f => f.inode == FileSystem.root
    | .error _ => false
  if w.recursive && w.keepsRoot && isRoot then
    warnOfRoot path
    return false
  match target with
  | .error e =>
    if !w.quiet then warnOf ("cannot dereference " ++ shellQuoted path) e
    if w.verbosity = .all then describe w path (some found.node) true false
    return false
  | .ok target =>
    let n := target.node
    let fits (wanted : Option Nat) (has : Nat) : Bool := wanted.all (· == has)
    let gives := fits w.required.owner n.owner && fits w.required.group n.group
    if gives then
      let _ ← changeFiles fun fs _ => .ok (fs.setOwner target.inode w.spec.owner w.spec.group)
    let changed := gives && !(fits w.spec.owner n.owner && fits w.spec.group n.group)
    if (changed && w.verbosity != .silent) || w.verbosity = .all then
      describe w path (some n) false changed
    return true

/-- Gives what a path names away, after all that is below it. The number bounds how deep that is. -/
def giveAll (w : Wanted) (atOperand : Bool) (above : List Inode) (path : String) : Nat → Tool Bool
  | 0 => return false
  | depth + 1 => do
    let follows := w.recursive && (w.following == .always || (atOperand && w.following == .operands))
    let found ← match ← inspect path follows with
      | .ok found => pure (Except.ok found)
      | .error e => if follows then inspect path false else pure (.error e)
    match found with
    | .error e =>
      if !w.quiet then warnOf ("cannot access " ++ shellQuoted path) e
      if w.verbosity = .all then describe w path none true false
      return false
    | .ok found =>
      if !w.recursive || !found.isDirectory || above.contains found.inode then give w path found
      else if w.keepsRoot && found.inode == FileSystem.root then
        warnOfRoot path
        return false
      else
        let entries ← files fun fs _ => fs.entries found.inode
        let ok ← entries.foldlM
          (fun ok (name, _) => do
            let inner := inDirectory path name
            return (← giveAll w false (found.inode :: above) inner depth) && ok)
          true
        return (← give w path found) && ok

def switches : List Switch := [
  .letter 'c' "changes" .none, ⟨"dereference", "dereference", .none⟩, .letter 'f' "silent" .none,
  ⟨"f", "quiet", .none⟩, .letter 'h' "no-dereference" .none, .letter 'H' "" .none,
  .letter 'L' "" .none, .letter 'P' "" .none, .letter 'R' "recursive" .none,
  ⟨"preserve-root", "preserve-root", .none⟩, ⟨"no-preserve-root", "no-preserve-root", .none⟩,
  ⟨"reference", "reference", .required⟩, .letter 'v' "verbose" .none]

/-- Ends the tool because of a user and a group; a point in place of a colon is only spoken of. -/
def specOrFail (text : String) (mistake : Mistake) : Tool Spec := do
  let shown := mistake.message ++ ": " ++ quote text
  match mistake with
  | .point spec =>
    warn shown
    return spec
  | _ => fail 1 shown

/-- Does the work for operands, the first of which may say whom to give to. Another file may say
that, too: its group and, if there is more than groups to be given, its owner. -/
def giveOperands (p : Parsed) (required : Spec) (onlyGroup : Bool) (specFor : String → Tool Spec) : Tool Nat := do
  let recursive := p.has "R"
  let dereference := p.lastOf? ["h", "dereference"]
  let following : Following := match p.lastOf? ["H", "L", "P"] with
    | some "H" => .operands
    | some "L" => .always
    | _ => .never
  let isPhysical := recursive && following == .never
  if isPhysical && dereference == some "dereference" then
    fail 1 "-R --dereference requires either -H or -L"
  match p.operands, p.has "reference" with
  | [], _ => missingOperand 1
  | [operand], false => missingAfter 1 operand
  | _, _ => pure ()
  let (spec, paths) ← match p.last? "reference" with
    | some path => match ← inspect path true with
      | .error e => fail 1 ("failed to get attributes of " ++ shellQuoted path ++ ": " ++ e.message)
      | .ok found =>
        let n := found.node
        let spec : Spec := { group := some n.group, groupName := Accounts.groupText n.group }
        pure (if onlyGroup then spec
          else { spec with owner := some n.owner, ownerName := Accounts.userText n.owner }, p.operands)
    | none => pure (← specFor (p.operands.headD ""), p.operands.drop 1)
  let w : Wanted := {
    spec, recursive, following, quiet := p.has "f"
    required
    refers := dereference != some "h" && !isPhysical
    verbosity := match p.lastOf? ["c", "v"] with
      | some "c" => .changes
      | some _ => .all
      | none => .silent
    keepsRoot := p.lastOf? ["preserve-root", "no-preserve-root"] == some "preserve-root" }
  forOperands paths fun path => giveAll w true [] (trimmed path) Removal.maxDepth

/-- The user and the group that a text names. -/
def wantedSpec (text : String) : Tool Spec :=
  match Spec.ofString text with
  | .ok spec => return spec
  | .error mistake => specOrFail text mistake

/-- Takes from an option whose files alone are given away. -/
def addRequired (required : Spec) (given : Given) : Tool Spec := do
  if given.1 != "from" then return required
  let spec ← wantedSpec (given.2.getD "")
  return { spec with owner := spec.owner.or required.owner, group := spec.group.or required.group }

end Owning

open Owning

def chown (call : Call) : Tool Nat := do
  let (p, required) ← parseInto (switches ++ [⟨"from", "from", .required⟩]) false 1 call.operands {} addRequired
  giveOperands p required false fun text => do
    let spec ← wantedSpec text
    -- A group alone goes with a user without a name.
    if spec.ownerName.isNone && spec.groupName.isSome then return { spec with ownerName := some "" }
    return spec

def chgrp (call : Call) : Tool Nat := do
  let p ← parse switches false 1 call.operands
  giveOperands p {} true fun text => do
    if text.isEmpty then return {}
    match (Accounts.groupNamed? text).map (·.number) with
    | some n => return { group := some n, groupName := some text }
    | none => match Accounts.numberOf? text with
      | some n => return { group := some n, groupName := some text }
      | none =>
        if text == toString (2 ^ 32 - 1 : Nat) then return { groupName := some text }
        fail 1 ("invalid group: " ++ quote text)

end PipeShell.Host.Tool
