import PipeShell.Host.FileSystem

/-! # What is known of a node

Its kind, its size and its permission bits, as programs tell them. -/

namespace PipeShell.Host

/-- The permission bits as three letters for each of owner, group and others. -/
def modeText (mode : Nat) : String :=
  let bit (n : Nat) (c : Char) : Char := if mode &&& n != 0 then c else '-'
  let special (x s : Nat) (both one : Char) : Char :=
    if mode &&& s != 0 then (if mode &&& x != 0 then both else one) else bit x 'x'
  String.ofList [
    bit 0o400 'r', bit 0o200 'w', special 0o100 0o4000 's' 'S',
    bit 0o040 'r', bit 0o020 'w', special 0o010 0o2000 's' 'S',
    bit 0o004 'r', bit 0o002 'w', special 0o001 0o1000 't' 'T']

namespace Node

/-- The bytes that can be read of a file; those of a program are not known, but it has some. -/
def size (n : Node) : Nat :=
  match n.body with
  | .directory .. => 4096
  | .link target => target.length
  | .file content => content.size
  | .program name => 32768 + 8 * name.length
  | _ => 0

/-- How much room a node takes, in units of 512 bytes. -/
def blocks (n : Node) : Nat :=
  match n.body with
  | .link _ => 0
  | _ => (n.size + 4095) / 4096 * 8

def isDirectory (n : Node) : Bool := n.body matches .directory ..

def isLink (n : Node) : Bool := n.body matches .link _

def typeLetter (n : Node) : Char :=
  match n.body with
  | .directory .. => 'd'
  | .link _ => 'l'
  | .fifo _ => 'p'
  | .device device => if device.isBlocks then 'b' else 'c'
  | _ => '-'

/-- The bits in front of the permission bits. -/
def typeBits (n : Node) : Nat :=
  match n.body with
  | .directory .. => 0o040000
  | .link _ => 0o120000
  | .fifo _ => 0o010000
  | .device device => if device.isBlocks then 0o060000 else 0o020000
  | _ => 0o100000

def kind (n : Node) : String :=
  match n.body with
  | .directory .. => "directory"
  | .link _ => "symbolic link"
  | .fifo _ => "fifo"
  | .device device => if device.isBlocks then "block special file" else "character special file"
  | _ => if n.size == 0 then "regular empty file" else "regular file"

/-- The numbers of a device. -/
def device (n : Node) : Nat × Nat :=
  match n.body with
  | .device .null => (1, 3)
  | .device .zero => (1, 5)
  | .device .full => (1, 7)
  | .device .random => (1, 9)
  | .device .terminal => (5, 0)
  | .device (.absent _ major minor) => (major, minor)
  | _ => (0, 0)

end Node
end PipeShell.Host
