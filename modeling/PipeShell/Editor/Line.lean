import PipeShell.Input
import PipeShell.Text.Grapheme
import PipeShell.Text.Utf8

/-! # Lines of an input that is no terminal

A line ends at a line feed; that and one carriage return before it are dropped. Each backspace
left in it erases the grapheme cluster before it, or what is remembered of it. -/

namespace PipeShell.Editor

/-- Whether a cluster is a single backspace. -/
def isBackspace (cluster : List Char) : Bool := cluster == ['\x08']

/-- The bytes of a cluster as far as the editor remembers them: their number is kept in one byte. -/
def rememberedSize (cluster : List Char) : Nat :=
  (cluster.foldl (fun size c => size + c.utf8Size) 0) % 256

/-- Takes so many bytes off the front of a list of characters, if they are whole characters. -/
def dropBytes (count : Nat) : List Char → Option (List Char)
  | [] => if count = 0 then some [] else none
  | c :: cs =>
    if count = 0 then some (c :: cs)
    else if c.utf8Size ≤ count then dropBytes (count - c.utf8Size) cs
    else none

/-- Goes through clusters, each backspace taking away as many bytes as are remembered of the last
cluster. The text so far stands backwards. -/
def eraseFrom (kept : List Char) (sizes : List Nat) : List (List Char) → Option (List Char)
  | [] => some kept.reverse
  | cluster :: rest =>
    if isBackspace cluster then
      match sizes with
      | [] => eraseFrom kept [] rest
      | size :: sizes => (dropBytes size kept).bind fun kept => eraseFrom kept sizes rest
    else eraseFrom (cluster.reverse ++ kept) (rememberedSize cluster :: sizes) rest

/-- The line that is left when every backspace has erased the cluster before it. There is none if
a cluster is so long that its remembered size ends inside a character. -/
def applyBackspaces (line : String) : Option String :=
  (eraseFrom [] [] (Text.Grapheme.clusters line.toList)).map String.ofList

/-- Drops the line feed at the end and one carriage return before it. -/
def dropEnd (line : String) : String :=
  match line.toList.reverse with
  | '\n' :: '\r' :: rest => String.ofList rest.reverse
  | '\n' :: rest => String.ofList rest.reverse
  | _ => line

def invalidText : ReadError := .io (.other "stream did not contain valid UTF-8")

/-- Where the line that starts at `start` ends, its line feed included. -/
def lineEnd (bytes : ByteArray) (start : Nat) : Nat :=
  match bytes.findIdx? (· == 10) start with
  | some i => i + 1
  | none => bytes.size

/-- What an attempt to read a line brings. -/
inductive Attempt where
  | read (item : Except ReadError String)
  /-- The editor fails for good, and the program with it. -/
  | abandoned
  deriving Repr

/-- Reads the line that starts at `start` and says where the next one does. -/
def readAt (bytes : ByteArray) (start : Nat) : Attempt × Nat :=
  if bytes.size ≤ start then (.read (.error .endOfInput), start)
  else
    let stop := lineEnd bytes start
    match Text.ofUtf8? (bytes.extract start stop) with
    | none => (.read (.error invalidText), stop)
    | some line => match applyBackspaces (dropEnd line) with
      | none => (.abandoned, stop)
      | some line => (.read (.ok line), stop)

/-- The kinds of terminal for which the prompt is written even though nothing can be edited. -/
def plainTerminals : List String := ["dumb", "cons25", "emacs"]

def isPlainTerminal (kind : Option String) : Bool :=
  match kind with
  | some kind => plainTerminals.contains (kind.map Char.toLower)
  | none => false

end PipeShell.Editor
