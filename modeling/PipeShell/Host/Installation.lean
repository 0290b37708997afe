import PipeShell.Host.Accounts
import PipeShell.Host.FileSystem.Change
import PipeShell.Host.Tool.All

/-! # What is installed

The directories, devices, programs and files that a host has before anybody uses it. -/

namespace PipeShell.Host.FileSystem

/-- Devices by name. -/
def devices : List (String × Device) := [
  ("null", .null), ("zero", .zero), ("full", .full), ("tty", .terminal), ("random", .random),
  ("urandom", .random), ("stdin", .descriptor 0), ("stdout", .descriptor 1),
  ("stderr", .descriptor 2)]

/-- Directories by their paths, with their permission bits. Those above them are made. -/
def directories : List (String × Nat) := [
  ("/boot", 0o755), ("/dev/pts", 0o755), ("/dev/shm", 0o1777), ("/etc", 0o755), ("/home", 0o755),
  ("/media", 0o755), ("/mnt", 0o755), ("/opt", 0o755), ("/proc", 0o555), ("/proc/self", 0o555),
  ("/root", 0o700), ("/run", 0o755), ("/run/lock", 0o1777), ("/srv", 0o755), ("/sys", 0o555),
  ("/tmp", 0o1777), ("/usr", 0o755), ("/usr/bin", 0o755), ("/usr/games", 0o755),
  ("/usr/include", 0o755), ("/usr/lib", 0o755), ("/usr/lib64", 0o755), ("/usr/libexec", 0o755),
  ("/usr/local/bin", 0o755), ("/usr/local/etc", 0o755), ("/usr/local/games", 0o755),
  ("/usr/local/include", 0o755), ("/usr/local/lib", 0o755), ("/usr/local/sbin", 0o755),
  ("/usr/local/share", 0o755), ("/usr/local/src", 0o755), ("/usr/sbin", 0o755),
  ("/usr/share/doc", 0o755), ("/usr/share/man", 0o755), ("/usr/src", 0o755),
  ("/var/backups", 0o755), ("/var/cache", 0o755), ("/var/lib", 0o755), ("/var/local", 0o2775),
  ("/var/log", 0o755), ("/var/mail", 0o2775), ("/var/opt", 0o755), ("/var/spool", 0o755),
  ("/var/tmp", 0o1777)]

/-- Links by their paths, with their targets. -/
def links : List (String × String) := [
  ("/bin", "usr/bin"), ("/sbin", "usr/sbin"), ("/lib", "usr/lib"), ("/lib64", "usr/lib64"),
  ("/usr/local/man", "share/man"), ("/var/lock", "/run/lock"), ("/var/run", "/run"),
  ("/var/spool/mail", "../mail"), ("/etc/localtime", "/usr/share/zoneinfo/Etc/UTC")]

/-- Files by their paths, with what is in them. -/
def texts : List (String × String) := [
  ("/etc/passwd", Accounts.userFile), ("/etc/group", Accounts.groupFile),
  ("/etc/issue", "Debian GNU/Linux 12 \\n \\l\n\n"), ("/etc/issue.net", "Debian GNU/Linux 12\n"),
  ("/etc/fstab", "# UNCONFIGURED FSTAB FOR BASE SYSTEM\n"), ("/etc/timezone", "Etc/UTC\n"),
  ("/etc/hostname", "localhost\n"), ("/etc/hosts", "127.0.0.1\tlocalhost\n"),
  ("/proc/self/status", "")]

/-- The programs by name. -/
def programs : List String := "sh" :: "dash" :: Tool.all.map (·.1)

/-- A file system with what every host has. -/
def standard : FileSystem :=
  let fs := directories.foldl
    (fun (fs : FileSystem) (path, mode) =>
      let (fs, i) := fs.makeDirectories root (namesOf path)
      fs.setMode i mode)
    empty
  let fs := programs.foldl
    (fun (fs : FileSystem) name => fs.put root ["usr", "bin", name] (.program name) 0o755) fs
  let fs := devices.foldl
    (fun (fs : FileSystem) (name, device) => fs.put root ["dev", name] (.device device) 0o666) fs
  let fs := (List.range 10).foldl
    (fun (fs : FileSystem) n => fs.put root ["dev", "fd", toString n] (.device (.descriptor n)) 0o666) fs
  let fs := links.foldl
    (fun (fs : FileSystem) (path, target) => fs.put root (namesOf path) (.link target) 0o777) fs
  texts.foldl
    (fun (fs : FileSystem) (path, text) => fs.put root (namesOf path) (.file text.toUTF8) 0o644) fs

end PipeShell.Host.FileSystem
