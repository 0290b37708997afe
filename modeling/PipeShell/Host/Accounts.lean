import PipeShell.Host.Number.Integer

/-! # Users and groups

Those that every host knows, by their names and numbers. -/

namespace PipeShell.Host

structure User where
  name : String
  number : Nat
  group : Nat
  /-- What is said of the user besides. -/
  about : String
  home : String
  shell : String

structure Group where
  name : String
  number : Nat

namespace Accounts

def noShell : String := "/usr/sbin/nologin"

def users : List User := [
  ⟨"root", 0, 0, "root", "/root", "/bin/bash"⟩, ⟨"daemon", 1, 1, "daemon", "/usr/sbin", noShell⟩,
  ⟨"bin", 2, 2, "bin", "/bin", noShell⟩, ⟨"sys", 3, 3, "sys", "/dev", noShell⟩,
  ⟨"sync", 4, 65534, "sync", "/bin", "/bin/sync"⟩, ⟨"games", 5, 60, "games", "/usr/games", noShell⟩,
  ⟨"man", 6, 12, "man", "/var/cache/man", noShell⟩, ⟨"lp", 7, 7, "lp", "/var/spool/lpd", noShell⟩,
  ⟨"mail", 8, 8, "mail", "/var/mail", noShell⟩, ⟨"news", 9, 9, "news", "/var/spool/news", noShell⟩,
  ⟨"uucp", 10, 10, "uucp", "/var/spool/uucp", noShell⟩, ⟨"proxy", 13, 13, "proxy", "/bin", noShell⟩,
  ⟨"www-data", 33, 33, "www-data", "/var/www", noShell⟩,
  ⟨"backup", 34, 34, "backup", "/var/backups", noShell⟩,
  ⟨"list", 38, 38, "Mailing List Manager", "/var/list", noShell⟩,
  ⟨"irc", 39, 39, "ircd", "/run/ircd", noShell⟩, ⟨"_apt", 42, 65534, "", "/nonexistent", noShell⟩,
  ⟨"nobody", 65534, 65534, "nobody", "/nonexistent", noShell⟩]

def groups : List Group := [⟨"root", 0⟩, ⟨"daemon", 1⟩, ⟨"bin", 2⟩, ⟨"sys", 3⟩, ⟨"adm", 4⟩, ⟨"tty", 5⟩,
  ⟨"disk", 6⟩, ⟨"lp", 7⟩, ⟨"mail", 8⟩, ⟨"news", 9⟩, ⟨"uucp", 10⟩, ⟨"man", 12⟩, ⟨"proxy", 13⟩,
  ⟨"kmem", 15⟩, ⟨"dialout", 20⟩, ⟨"fax", 21⟩, ⟨"voice", 22⟩, ⟨"cdrom", 24⟩, ⟨"floppy", 25⟩,
  ⟨"tape", 26⟩, ⟨"sudo", 27⟩, ⟨"audio", 29⟩, ⟨"dip", 30⟩, ⟨"www-data", 33⟩, ⟨"backup", 34⟩,
  ⟨"operator", 37⟩, ⟨"list", 38⟩, ⟨"irc", 39⟩, ⟨"src", 40⟩, ⟨"shadow", 42⟩, ⟨"utmp", 43⟩,
  ⟨"video", 44⟩, ⟨"sasl", 45⟩, ⟨"plugdev", 46⟩, ⟨"staff", 50⟩, ⟨"games", 60⟩, ⟨"users", 100⟩,
  ⟨"nogroup", 65534⟩]

def userNamed? (name : String) : Option User := users.find? (·.name == name)

def user? (number : Nat) : Option User := users.find? (·.number == number)

def groupNamed? (name : String) : Option Group := groups.find? (·.name == name)

def group? (number : Nat) : Option Group := groups.find? (·.number == number)

/-- The number that a text gives for a user or group: no greater one has a meaning. -/
def numberOf? (text : String) : Option Nat :=
  let cs := text.toList
  match Number.Integer.read 10 cs with
  | (n, false, []) =>
    let isMinus := (cs.dropWhile Number.Floating.isSpace).head? == some '-'
    if isMinus || cs.isEmpty || 2 ^ 32 - 1 ≤ n then none else some n.toNat
  | _ => none

/-- The name of a user, or the number of one that is not known. -/
def userText (number : Nat) : String := ((user? number).map (·.name)).getD (toString number)

def groupText (number : Nat) : String := ((group? number).map (·.name)).getD (toString number)

/-- The file that lists the users. -/
def userFile : String := String.join (users.map fun u =>
  ":".intercalate [u.name, "x", toString u.number, toString u.group, u.about, u.home, u.shell] ++ "\n")

/-- The file that lists the groups. -/
def groupFile : String := String.join (groups.map fun g => s!"{g.name}:x:{g.number}:\n")

end Accounts
end PipeShell.Host
