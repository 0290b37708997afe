import PipeShell.Input
import PipeShell.Text.Grapheme

/-! # Keys typed at a terminal

A line grows by what is typed until Enter accepts it. Backspace erases a grapheme cluster and
Ctrl-U the whole line; Ctrl-C gives the line up, and Ctrl-D on an empty line ends the input. The
control characters beyond ASCII are no keys and do nothing. -/

namespace PipeShell.Editor

/-- The line without its last cluster. -/
def eraseCluster (line : List Char) : List Char :=
  (Text.Grapheme.clusters line).dropLast.flatten

/-- Whether a character is one of the control characters beyond ASCII. -/
def isHighControl (key : Char) : Bool := 0x80 ≤ key.toNat && key.toNat < 0xa0

/-- Reads one line from the keys, given what the line holds already. The keys after the one that
ends the reading are left. -/
def readKeys (line : List Char) : List Char → Except ReadError String × List Char
  | [] => (.error .endOfInput, [])
  | key :: keys =>
    if key == '\r' || key == '\n' then (.ok (String.ofList line), keys)
    else if key == '\x03' then (.error .interrupted, keys)
    else if key == '\x04' then
      if line.isEmpty then (.error .endOfInput, keys) else readKeys line keys
    else if key == '\x7f' || key == '\x08' then readKeys (eraseCluster line) keys
    else if key == '\x15' then readKeys [] keys
    else if isHighControl key then readKeys line keys
    else readKeys (line ++ [key]) keys

end PipeShell.Editor
