import PipeShell.Host.Tool.Blocks
import PipeShell.Host.Tool.Characters
import PipeShell.Host.Tool.Checking
import PipeShell.Host.Tool.Coloring
import PipeShell.Host.Tool.Columns
import PipeShell.Host.Tool.Concordance
import PipeShell.Host.Tool.Condition
import PipeShell.Host.Tool.Copying
import PipeShell.Host.Tool.Count
import PipeShell.Host.Tool.Dump
import PipeShell.Host.Tool.Encoding
import PipeShell.Host.Tool.Erasing
import PipeShell.Host.Tool.Expression
import PipeShell.Host.Tool.Following
import PipeShell.Host.Tool.Identity
import PipeShell.Host.Tool.Installing
import PipeShell.Host.Tool.Joining
import PipeShell.Host.Tool.Layout
import PipeShell.Host.Tool.Linking
import PipeShell.Host.Tool.Listing
import PipeShell.Host.Tool.Making
import PipeShell.Host.Tool.Names
import PipeShell.Host.Tool.Numbering
import PipeShell.Host.Tool.Owning
import PipeShell.Host.Tool.Pages
import PipeShell.Host.Tool.Paragraphs
import PipeShell.Host.Tool.Parts
import PipeShell.Host.Tool.Permitting
import PipeShell.Host.Tool.Portable
import PipeShell.Host.Tool.Precedence
import PipeShell.Host.Tool.Presence
import PipeShell.Host.Tool.Print
import PipeShell.Host.Tool.Runs
import PipeShell.Host.Tool.Scaling
import PipeShell.Host.Tool.Sections
import PipeShell.Host.Tool.Sequence
import PipeShell.Host.Tool.Shuffling
import PipeShell.Host.Tool.Sort
import PipeShell.Host.Tool.Splitting
import PipeShell.Host.Tool.Starting
import PipeShell.Host.Tool.Status
import PipeShell.Host.Tool.Temporary
import PipeShell.Host.Tool.Terminal
import PipeShell.Host.Tool.Touching
import PipeShell.Host.Tool.Usage
import PipeShell.Host.Tool.Variables
import PipeShell.Host.Tool.Volumes

/-! # All tools by name -/

namespace PipeShell.Host.Tool

/-- A tool that does nothing but end with a code. -/
def silent (code : Nat) (_ : Call) : Tool Nat := return code

/-- The tools that a host provides. -/
def all : List (String × (Call → Tool Nat)) := [
  ("[", bracketed), ("arch", arch), ("b2sum", b2sum), ("base32", base32), ("base64", base64),
  ("basename", basename), ("basenc", basenc), ("cat", cat), ("chcon", chcon), ("chgrp", chgrp),
  ("chmod", chmod), ("chown", chown), ("cksum", cksum), ("comm", comm), ("cp", cp),
  ("csplit", csplit), ("cut", cut), ("date", date), ("dd", dd), ("df", df), ("dir", dir),
  ("dircolors", dircolors), ("dirname", dirname), ("du", du), ("echo", echo), ("env", env),
  ("expand", expand), ("expr", expr), ("factor", factor), ("false", silent 1), ("fmt", fmt),
  ("fold", foldLines), ("groups", groups), ("head", head), ("hostid", hostid), ("id", identify),
  ("install", install), ("join", join), ("link", link), ("ln", ln), ("logname", logname),
  ("ls", ls), ("md5sum", md5sum), ("md5sum.textutils", md5sum), ("mkdir", mkdir),
  ("mkfifo", mkfifo), ("mknod", mknod), ("mktemp", mktemp), ("mv", mv), ("nice", nice), ("nl", nl),
  ("nohup", nohup), ("nproc", nproc), ("numfmt", numfmt), ("od", od), ("paste", paste),
  ("pathchk", pathchk), ("pinky", pinky), ("pr", pr), ("printenv", printenv), ("printf", printf),
  ("ptx", ptx), ("pwd", pwd), ("readlink", readlink), ("realpath", realpath), ("rev", rev),
  ("rm", rm), ("rmdir", rmdir), ("runcon", runcon), ("seq", seq), ("sha1sum", sha1sum),
  ("sha224sum", sha224sum), ("sha256sum", sha256sum), ("sha384sum", sha384sum),
  ("sha512sum", sha512sum), ("shred", shred), ("shuf", shuf), ("sleep", sleep), ("sort", sort),
  ("split", split), ("stat", stat), ("stdbuf", stdbuf), ("stty", stty), ("sum", sum),
  ("sync", sync), ("tac", tac), ("tail", tail), ("tee", tee), ("test", test), ("timeout", timeout),
  ("touch", touch), ("tr", tr), ("true", silent 0), ("truncate", truncate), ("tsort", tsort),
  ("tty", tty), ("uname", uname), ("unexpand", unexpand), ("uniq", uniq), ("unlink", unlink),
  ("users", users), ("vdir", vdir), ("wc", wc), ("who", who), ("whoami", whoami), ("yes", yes)]

end PipeShell.Host.Tool
