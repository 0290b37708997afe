import PipeShell.Host.Accounts
import PipeShell.Host.Tool.Identity

/-! # Who has logged in

Nobody has, so that headings and counts are all that there is to be shown. -/

namespace PipeShell.Host.Tool

def leftAligned (width : Nat) (text : String) : String :=
  text ++ String.ofList (List.replicate (width - text.length) ' ')

/-! ## `who` and `users` -/

/-- The names in the file that an operand names, or in the usual one: there are none. -/
def users (call : Call) : Tool Nat := do
  let p ← parse [] false 1 call.operands
  if let _ :: extra :: _ := p.operands then extraOperand 1 extra
  return 0

namespace Presence

def switches : List Switch := [.letter 'a' "all" .none, .letter 'b' "boot" .none, .letter 'd' "dead" .none,
  .letter 'H' "heading" .none, .letter 'l' "login" .none, ⟨"lookup", "lookup", .none⟩, .letter 'm' "" .none,
  .letter 'p' "process" .none, .letter 'q' "count" .none, .letter 'r' "runlevel" .none,
  .letter 's' "short" .none, .letter 't' "time" .none, .letter 'T' "message" .none, ⟨"T", "mesg", .none⟩,
  ⟨"T", "writable", .none⟩, .letter 'w' "" .none, .letter 'u' "users" .none]

/-- The heading of what options ask for. Only a choice of entries or the end of a session make room for
what belongs to a process. -/
def heading (p : Parsed) (timeWidth : Nat) : String :=
  let showsExit := p.hasAny ["a", "d"]
  let isShort := !showsExit && (p.has "s" || !p.hasAny ["a", "b", "d", "l", "p", "r", "t", "u"])
  let line := leftAligned 8 "NAME" ++ (if p.hasAny ["a", "T", "w"] then "  " else "") ++ " " ++
    leftAligned 12 "LINE" ++ " " ++ leftAligned timeWidth "TIME" ++
    (if !isShort && p.hasAny ["a", "d", "l", "r", "u"] then " " ++ leftAligned 6 "IDLE" else "") ++
    (if isShort then "" else "        PID") ++ " " ++ leftAligned 8 "COMMENT" ++
    (if showsExit then " EXIT" else "")
  String.ofList (line.toList.reverse.dropWhile (· == ' ')).reverse

end Presence

open Presence in
def who (call : Call) : Tool Nat := do
  let p ← parse switches false 1 call.operands
  if let _ :: _ :: extra :: _ := p.operands then extraOperand 1 extra
  if p.has "q" then print "\n# users=0\n"
  else if p.has "H" then
    print (heading p (if (← get).encoding = .bytes then 12 else 16) ++ "\n")
  return 0

/-! ## `pinky` -/

namespace Pinky

/-- What is shown of somebody who is not there, or does not have to be. -/
structure Wanted where
  isLong : Bool
  heading : Bool
  fullName : Bool
  idle : Bool
  place : Bool
  home : Bool
  project : Bool
  plan : Bool

/-- The letters in the order in which they were given leave out more and more. -/
def wanted (p : Parsed) : Wanted where
  isLong := p.lastOf? ["l", "s"] == some "l"
  heading := !p.has "f"
  fullName := !p.hasAny ["w", "i", "q"]
  idle := !p.has "q"
  place := !p.hasAny ["i", "q"]
  home := !p.has "b"
  project := !p.has "h"
  plan := !p.has "p"

/-- A full name: an ampersand in it stands for the name. -/
def fullNameOf (u : User) : String :=
  let name := match u.name.toList with
    | c :: cs => String.ofList (c.toUpper :: cs)
    | [] => ""
  String.join ((u.about.toList.takeWhile (· != ',')).map fun c =>
    if c == '&' then name else String.ofList [c])

/-- Shows a file in a home directory under a title, if there is one. -/
def showFile (home name title : String) : Tool Unit := do
  match ← act (Act.openFile (home ++ "/" ++ name) { read := true }) with
  | .error _ => pure ()
  | .ok fd =>
    let (bytes, _) ← readWhole fd
    closeOperand fd
    print title
    put bytes

def showLong (w : Wanted) (name : String) : Tool Unit := do
  print ("Login name: " ++ leftAligned 28 name ++ "In real life: ")
  match Accounts.userNamed? name with
  | none => print " ???\n"
  | some u =>
    print (" " ++ fullNameOf u ++ "\n")
    if w.home then print ("Directory: " ++ leftAligned 29 u.home ++ "Shell:  " ++ u.shell ++ "\n")
    if w.project then showFile u.home ".project" "Project: "
    if w.plan then showFile u.home ".plan" "Plan:\n"
    print "\n"

def showHeading (w : Wanted) : Tool Unit := print (
  "Login   " ++ (if w.fullName then " Name               " else "") ++ "  TTY     " ++
  (if w.idle then " Idle  " else "") ++ " When        " ++ (if w.place then " Where" else "") ++ "\n")

end Pinky

open Pinky in
def pinky (call : Call) : Tool Nat := do
  let p ← parse (Switch.ofLetters "sfwiqbhlp") false 1 call.operands
  let w := wanted p
  if w.isLong then
    if p.operands.isEmpty then
      misuse 1 "no username specified; at least one must be specified when using -l"
    for name in p.operands do showLong w name
  else if w.heading then showHeading w
  return 0

end PipeShell.Host.Tool
