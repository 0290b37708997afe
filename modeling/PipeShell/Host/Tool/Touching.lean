import PipeShell.Host.Tool.Date
import PipeShell.Host.Tool.Making

/-! # `touch`

Sets when files were looked at and changed last: to the present moment, to a moment that is
described, or to those of another file. Files that are missing are made. -/

namespace PipeShell.Host.Tool
namespace Touching

structure Wanted where
  creates : Bool
  follows : Bool
  /-- Which of the two times are set. -/
  setsAccess : Bool
  setsModified : Bool
  /-- The times, if they are not the present moment. -/
  times : Option (Moment × Moment)

/-- The times that are set, as far as they are. -/
def timesOf (w : Wanted) (now : Moment) : Option Moment × Option Moment :=
  let (accessed, modified) := w.times.getD (now, now)
  (if w.setsAccess then some accessed else none, if w.setsModified then some modified else none)

def setTimes (w : Wanted) (i : Inode) : Tool Unit := do
  let (accessed, modified) := timesOf w (← presentMoment)
  let _ ← changeFiles fun fs _ => .ok (fs.setTimes i accessed modified)

/-- What the standard output leads to has its times set. -/
def touchOutput (w : Wanted) : Tool Bool := do
  match ← act (Act.look (·.openFile? 1)) with
  | .error e => if w.creates then report ("setting times of " ++ shellQuoted "-") (.error e) else return true
  | .ok _ =>
    if let some (i, _) ← act (Act.nodeAt? 1) then setTimes w i
    return true

/-- Touches what an operand names. A failure to open it is told only where its times cannot be set
either, and not of a directory. -/
def touch (w : Wanted) (path : String) : Tool Bool := do
  if path == "-" then return ← touchOutput w
  let opened : Except Errno Unit ←
    if !w.creates || !w.follows then pure (.ok ())
    else match ← act (Act.openFile path { write := true, create := some 0o666 }) with
      | .ok fd => do
        act (Act.close fd)
        pure (.ok ())
      | .error e => pure (.error e)
  match ← files fun fs cwd => fs.resolve cwd path w.follows with
  | .ok i =>
    setTimes w i
    return true
  | .error e => match opened with
    | .error why =>
      if why = .isDirectory then report ("setting times of " ++ shellQuoted path) (.error e)
      else report ("cannot touch " ++ shellQuoted path) (.error why)
    | .ok () =>
      if !w.creates && e = .notFound then return true
      report ("setting times of " ++ shellQuoted path) (.error e)

/-- The words for the time of the last look, and for that of the last change. -/
def kinds : List (String × Bool) :=
  [("atime", true), ("access", true), ("use", true), ("mtime", false), ("modify", false)]

/-- Which times are set, and to what the option with digits says. -/
structure Chosen where
  access : Bool := false
  modified : Bool := false
  stamp : Option Moment := none

def switches : List Switch := [.letter 'a' "" .none, .letter 'c' "no-create" .none,
  .letter 'd' "date" .required, .letter 'f' "" .none, .letter 'h' "no-dereference" .none,
  .letter 'm' "" .none, .letter 'r' "reference" .required, .letter 't' "" .required,
  ⟨"time", "time", .required⟩]

end Touching

open Touching in
def touch (call : Call) : Tool Nat := do
  let zone := zoneOf call.environment
  let now ← presentMoment
  let add (c : Chosen) (given : Given) : Tool Chosen := do
    let text := given.2.getD ""
    match given.1 with
    | "a" => return { c with access := true }
    | "m" => return { c with modified := true }
    | "t" => match Description.ofDigits? zone false now text with
      | some moment => return { c with stamp := some moment }
      | none => fail 1 ("invalid date format " ++ quote text)
    | "time" => do
      if ← choose "--time" kinds text then return { c with access := true }
      return { c with modified := true }
    | _ => return c
  let (p, { access, modified, stamp }) ← parseInto switches false 1 call.operands {} add
  if stamp.isSome && p.hasAny ["r", "d"] then
    misuse 1 "cannot specify times from more than one source"
  let described (base : Moment) : Tool Moment := do
    match p.last? "d" with
    | none => return base
    | some text => match Description.read? zone base text with
      | some moment => return moment
      | none => fail 1 ("invalid date format " ++ quote text)
  let both := !access && !modified
  let times : Option (Moment × Moment) ← match p.last? "r", stamp with
    | some path, _ => match ← files fun fs cwd => (fs.resolve cwd path (!p.has "h")).map fs.node? with
      | .error e => fail 1 ("failed to get attributes of " ++ shellQuoted path ++ ": " ++ e.message)
      | .ok node =>
        let node := node.getD default
        let accessed ← if access || both then described node.accessed else pure node.accessed
        let last ← if modified || both then described node.modified else pure node.modified
        pure (some (accessed, last))
    | none, some moment => pure (some (moment, moment))
    | none, none => do
      if !p.has "d" then pure none
      else
        let moment ← described now
        pure (some (moment, moment))
  if p.operands.isEmpty then misuse 1 "missing file operand"
  let w : Wanted := {
    creates := !p.has "c", follows := !p.has "h"
    setsAccess := access || both, setsModified := modified || both, times }
  forOperands p.operands (Touching.touch w)

end PipeShell.Host.Tool
