import PipeShell.Host.Accounts
import PipeShell.Host.Tool.Amount
import PipeShell.Host.Tool.Options

/-! # Who and where

What a host says of its user, of itself and of its terminal. The user is `root`; there is no
terminal, and nobody has logged in. -/

namespace PipeShell.Host.Tool

def noOperands (p : Parsed) : Tool Unit := do
  if let extra :: _ := p.operands then extraOperand 1 extra

/-- A tool without options and operands that prints a line. -/
def sayer (line : String) (call : Call) : Tool Nat := do
  let p ← parse [] false 1 call.operands
  noOperands p
  print (line ++ "\n")
  return 0

def whoami (call : Call) : Tool Nat := sayer "root" call

def arch (call : Call) : Tool Nat := sayer "x86_64" call

/-- The user that a text names, or that has this number. -/
def userOf? (text : String) : Option User :=
  let named := if text.startsWith "+" then none else Accounts.userNamed? text
  named.or ((Accounts.numberOf? text).bind Accounts.user?)

/-- Ends the tool if options do not go together. -/
def checkIdentity (p : Parsed) : Tool (List String) := do
  if p.has "Z" then fail 1 "--context (-Z) works only on an SELinux-enabled kernel"
  let kinds := ["u", "g", "G"].filter p.has
  if kinds.length > 1 then fail 1 "cannot print \"only\" of more than one choice"
  if kinds.isEmpty && p.hasAny ["n", "r"] then
    fail 1 "cannot print only names or real IDs in default format"
  if kinds.isEmpty && p.has "z" then fail 1 "option --zero not permitted in default format"
  return kinds

def identify (call : Call) : Tool Nat := do
  let p ← parse [.letter 'a' "" .none, .letter 'Z' "context" .none, .letter 'g' "group" .none,
    .letter 'G' "groups" .none, .letter 'n' "name" .none, .letter 'r' "real" .none,
    .letter 'u' "user" .none, .letter 'z' "zero" .none] false 1 call.operands
  let kinds ← checkIdentity p
  let mut code := 0
  for name in if p.operands.isEmpty then ["root"] else p.operands do
    match userOf? name with
    | none =>
      if name.isEmpty then warnOf (quote name ++ ": no such user") .notFound
      else warn (quote name ++ ": no such user")
      code := 1
    | some user =>
      let group := Accounts.groupText user.group
      let shown (number : Nat) (text : String) : String := if p.has "n" then text else toString number
      match kinds with
      | ["u"] => print (shown user.number user.name)
      | [_] => print (shown user.group group)
      | _ =>
        let named (number : Nat) (text : String) : String := toString number ++ "(" ++ text ++ ")"
        print ("uid=" ++ named user.number user.name ++ " gid=" ++ named user.group group ++
          " groups=" ++ named user.group group)
      -- Lists of several users are kept apart.
      let stop := if kinds == ["G"] && 1 < p.operands.length then "\x00\x00" else "\x00"
      print (if p.has "z" then stop else "\n")
  return code

def groups (call : Call) : Tool Nat := do
  let p ← parse [] false 1 call.operands
  if p.operands.isEmpty then
    print "root\n"
    return 0
  let mut code := 0
  for name in p.operands do
    match Accounts.userNamed? name with
    | some user => print (name ++ " : " ++ Accounts.groupText user.group ++ "\n")
    | none =>
      warn (quote name ++ ": no such user")
      code := 1
  return code

def logname (call : Call) : Tool Nat := do
  let p ← parse [] false 1 call.operands
  noOperands p
  fail 1 "no login name"

def tty (call : Call) : Tool Nat := do
  let p ← parse [.letter 's' "silent" .none, ⟨"s", "quiet", .none⟩] false 2 call.operands
  if let extra :: _ := p.operands then extraOperand 2 extra
  if !p.has "s" then print "not a tty\n"
  return 1

/-- How many processors a host has. -/
def processors : Nat := 4

/-- The number of processors that an environment allows: a number with nothing but others behind it. -/
def allowedProcessors? (text : String) : Option Nat :=
  let cs := text.toList.dropWhile Number.Floating.isSpace
  let digits := cs.takeWhile Char.isDigit
  let rest := (cs.drop digits.length).dropWhile Number.Floating.isSpace
  match (String.ofList digits).toNat?, rest with
  | some n, [] | some n, ',' :: _ => if n == 0 then none else some n
  | _, _ => none

def nproc (call : Call) : Tool Nat := do
  let add (ignored : Nat) (given : Given) : Tool Nat := do
    if given.1 != "ignore" then return ignored
    return (← amountWithin false "" 0 (2 ^ 64 - 1) "invalid number" (given.2.getD "")).toNat
  let (p, ignored) ← parseInto [⟨"all", "all", .none⟩, ⟨"ignore", "ignore", .required⟩] false 1 call.operands 0 add
  if let extra :: _ := p.operands then extraOperand 1 extra
  let allowed (name : String) : Option Nat :=
    (valueIn call.environment name).bind allowedProcessors?
  let count :=
    if p.has "all" then processors
    else min ((allowed "OMP_NUM_THREADS").getD processors) ((allowed "OMP_THREAD_LIMIT").getD (2 ^ 64))
  print (toString (if ignored < count then count - ignored else 1) ++ "\n")
  return 0

/-- The number of a host, in base sixteen. -/
def hostNumber : String := "007f0100"

def hostid (call : Call) : Tool Nat := sayer hostNumber call

/-- Writes out what waits to be written. Nothing waits, so only the operands are looked at. -/
def sync (call : Call) : Tool Nat := do
  let p ← parse [.letter 'd' "data" .none, .letter 'f' "file-system" .none] false 1 call.operands
  if p.has "d" && p.has "f" then fail 1 "cannot specify both --data and --file-system"
  if p.has "d" && p.operands.isEmpty then fail 1 "--data needs at least one argument"
  let mut code := 0
  for path in p.operands do
    match ← act (Act.openFile path { read := true }) with
    | .ok fd => act (Act.close fd)
    | .error e =>
      warnOf ("error opening " ++ shellQuoted path) e
      code := 1
  return code

/-- The parts of a host's description, with the letters that ask for them. -/
def descriptions : List (String × String) := [("s", "Linux"), ("n", "localhost"), ("r", "6.1.0"),
  ("v", "#1 SMP"), ("m", "x86_64"), ("p", "unknown"), ("i", "unknown"), ("o", "GNU/Linux")]

def uname (call : Call) : Tool Nat := do
  let p ← parse [.letter 'a' "all" .none, .letter 's' "kernel-name" .none, ⟨"s", "sysname", .none⟩,
    .letter 'n' "nodename" .none, .letter 'r' "kernel-release" .none, ⟨"r", "release", .none⟩,
    .letter 'v' "kernel-version" .none, .letter 'm' "machine" .none, .letter 'p' "processor" .none,
    .letter 'i' "hardware-platform" .none, .letter 'o' "operating-system" .none] false 1 call.operands
  noOperands p
  let wanted (key : String) : Bool :=
    p.has key || (p.has "a" && key != "p" && key != "i") || (p.given.isEmpty && key == "s")
  print (" ".intercalate ((descriptions.filter (wanted ·.1)).map (·.2)) ++ "\n")
  return 0

end PipeShell.Host.Tool
