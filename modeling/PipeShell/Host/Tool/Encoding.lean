import PipeShell.Host.Tool.Amount
import PipeShell.Host.Tool.Options

/-! # Bytes as letters

Groups of bytes are written with letters that stand for so many bits each; signs at the end make the
last group as long as the others. In one scheme five letters stand for four bytes instead, as the
digits of a number to the base 85. -/

namespace PipeShell.Host.Tool

/-- A way to write bytes: its letters, each of which stands for so many bits, and how many bytes make
a group of how many letters. -/
structure Alphabet where
  letters : Array Char
  bits : Nat
  groupBytes : Nat
  groupLetters : Nat
  /-- Whether the text may end within a group for what there is of it to count. -/
  keepsShort : Bool := false

namespace Alphabet

def upper : List Char := "ABCDEFGHIJKLMNOPQRSTUVWXYZ".toList

def digits : List Char := "0123456789".toList

def sixBits (last : String) : Alphabet :=
  ⟨(upper ++ upper.map Char.toLower ++ digits ++ last.toList).toArray, 6, 3, 4, true⟩

def fiveBits : Alphabet := ⟨(upper ++ "234567".toList).toArray, 5, 5, 8, false⟩

def fiveBitsHex : Alphabet := ⟨(digits ++ upper.take 22).toArray, 5, 5, 8, false⟩

def fourBits : Alphabet := ⟨(digits ++ upper.take 6).toArray, 4, 1, 2, false⟩

def oneBit : Alphabet := ⟨"01".toList.toArray, 1, 1, 8, false⟩

variable (a : Alphabet)

/-- How many letters so many bytes of a group take. -/
def lettersFor (bytes : Nat) : Nat := (bytes * 8 + a.bits - 1) / a.bits

def encodeGroup (bytes : List UInt8) : List Char :=
  let n := bytes.foldl (fun n b => n * 256 + b.toNat) 0 * 256 ^ (a.groupBytes - bytes.length)
  let letters := (List.range a.groupLetters).map fun i =>
    a.letters.getD (n / 2 ^ (a.bits * (a.groupLetters - 1 - i)) % 2 ^ a.bits) 'A'
  let used := a.lettersFor bytes.length
  letters.take used ++ List.replicate (a.groupLetters - used) '='

def encode (bytes : ByteArray) : List Char :=
  (List.range ((bytes.size + a.groupBytes - 1) / a.groupBytes)).flatMap fun i =>
    a.encodeGroup (bytes.extract (i * a.groupBytes) ((i + 1) * a.groupBytes)).toList

/-- The bytes of a group, and whether it is well formed. Letters after which something is wrong still
count. -/
def decodeGroup (group : List Char) : List UInt8 × Bool :=
  let values := (group.map fun c => a.letters.idxOf? c).takeWhile Option.isSome
  let n := values.length
  let number := (values.filterMap id).foldl (fun n v => n * 2 ^ a.bits + v) 0 * 2 ^ (a.bits * (a.groupLetters - n))
  let size := n * a.bits / 8
  let bytes := (List.range size).map fun i => UInt8.ofNat (number / 256 ^ (a.groupBytes - 1 - i) % 256)
  let padding := group.drop n
  let complete := group.length == a.groupLetters && padding.all (· == '=') && 0 < n && a.lettersFor size == n
  (if a.keepsShort || group.length == a.groupLetters then bytes else [], complete)

/-- The bytes of a text, up to what is wrong with it. -/
def decode (cs : List Char) : Nat → ByteArray × Bool
  | 0 => (.empty, true)
  | fuel + 1 =>
    if cs.isEmpty then (.empty, true)
    else
      let (bytes, complete) := a.decodeGroup (cs.take a.groupLetters)
      if !complete then (⟨bytes.toArray⟩, false)
      else
        let (rest, ok) := decode (cs.drop a.groupLetters) fuel
        (⟨bytes.toArray⟩ ++ rest, ok)

end Alphabet

/-- A way to write bytes as text. -/
structure Scheme where
  letters : List Char
  /-- Bytes as letters, and whether all of them could be written. -/
  encode : ByteArray → List Char × Bool
  /-- Letters as bytes, up to what is wrong, and whether nothing is. -/
  decode : List Char → ByteArray × Bool

def Alphabet.scheme (a : Alphabet) : Scheme where
  letters := a.letters.toList
  encode bytes := (a.encode bytes, true)
  decode cs := a.decode cs (cs.length + 1)

namespace Scheme

def base64 : Scheme := (Alphabet.sixBits "+/").scheme

/-- How much text is looked at before anything of it is decoded. -/
def blockSize : Nat := 5600

/-- With letters that need no escape in addresses. The usual ones spoil all text that is looked at
with them. -/
def base64url : Scheme :=
  let a := Alphabet.sixBits "-_"
  { a.scheme with
    decode := fun cs => match cs.findIdx? (fun c => c == '+' || c == '/') with
      | some i =>
        let before := cs.take (i / blockSize * blockSize)
        ((a.decode before (before.length + 1)).1, false)
      | none => a.decode cs (cs.length + 1) }

def base32 : Scheme := Alphabet.fiveBits.scheme

/-- With letters whose order is that of their values. The usual letters have their usual values where
they are none of these. -/
def base32hex : Scheme :=
  let usual (c : Char) : Char := match Alphabet.fiveBitsHex.letters.idxOf? c with
    | some value => Alphabet.fiveBits.letters.getD value c
    | none => if c.isDigit then '\x00' else c
  { Alphabet.fiveBitsHex.scheme with decode := fun cs => base32.decode (cs.map usual) }

def base16 : Scheme := Alphabet.fourBits.scheme

def highBitFirst : Scheme := Alphabet.oneBit.scheme

def mirrored (b : UInt8) : UInt8 :=
  UInt8.ofNat ((List.range 8).foldl (fun n i => 2 * n + b.toNat / 2 ^ i % 2) 0)

def lowBitFirst : Scheme :=
  let mirror (bytes : ByteArray) : ByteArray := ⟨bytes.data.map mirrored⟩
  { highBitFirst with
    encode := fun bytes => highBitFirst.encode (mirror bytes)
    decode := fun cs => (mirror (highBitFirst.decode cs).1, (highBitFirst.decode cs).2) }

/-! ## Base 85 -/

def letters85 : List Char :=
  Alphabet.digits ++ Alphabet.upper.map Char.toLower ++ Alphabet.upper ++ ".-:+=^!/*?&<>()[]\x7b\x7d@%$#".toList

/-- How many bytes are encoded at a time. -/
def groupBlock : Nat := 30720

def encode85 (bytes : ByteArray) : List Char × Bool :=
  let isWhole := bytes.size % 4 == 0
  let size := if isWhole then bytes.size else bytes.size / groupBlock * groupBlock
  let letters := letters85.toArray
  ((List.range (size / 4)).flatMap fun i =>
    let n := (bytes.extract (4 * i) (4 * i + 4)).foldl (fun n b => n * 256 + b.toNat) 0
    (List.range 5).map fun k => letters.getD (n / 85 ^ (4 - k) % 85) '0', isWhole)

def decode85 (cs : List Char) : Nat → ByteArray × Bool
  | 0 => (.empty, true)
  | fuel + 1 =>
    if cs.isEmpty then (.empty, true)
    else
      let values := ((cs.take 5).map letters85.idxOf?).filterMap id
      let n := values.foldl (fun n v => n * 85 + v) 0
      if values.length < 5 || 2 ^ 32 ≤ n then (.empty, false)
      else
        let (rest, ok) := decode85 (cs.drop 5) fuel
        (⟨((List.range 4).map fun k => UInt8.ofNat (n / 256 ^ (3 - k) % 256)).toArray⟩ ++ rest, ok)

def base85 : Scheme := ⟨letters85, encode85, fun cs => decode85 cs (cs.length + 1)⟩

/-- The schemes that have a name. -/
def named : List (String × Scheme) := [("base64", base64), ("base64url", base64url), ("base32", base32),
  ("base32hex", base32hex), ("base16", base16), ("base2msbf", highBitFirst), ("base2lsbf", lowBitFirst),
  ("z85", base85)]

end Scheme

/-- Breaks a text into lines. -/
def wrapped (width : Nat) (cs : List Char) : String :=
  if width == 0 then String.ofList cs
  else go cs (cs.length + 1) ""
where
  go (cs : List Char) : Nat → String → String
    | 0, out => out
    | fuel + 1, out =>
      if cs.isEmpty then out
      else go (cs.drop width) fuel ((out ++ String.ofList (cs.take width)).push '\n')

def codingSwitches : List Switch :=
  [.letter 'd' "decode" .none, .letter 'i' "ignore-garbage" .none, .letter 'w' "wrap" .required]

/-- Takes the width of lines from an option, if it gives one. -/
def addWidth (width : Nat) (given : Given) : Tool Nat := do
  if given.1 != "w" then return width
  let text := given.2.getD ""
  match Amount.read true "" text with
  | .ok n => if n < 0 then fail 1 ("invalid wrap size: " ++ quote text) else return n.toNat
  | .error .tooLarge =>
    if text.toList.contains '-' then fail 1 ("invalid wrap size: " ++ quote text) else return 0
  | .error _ => fail 1 ("invalid wrap size: " ++ quote text)

/-- Encodes or decodes an input. -/
def coding (scheme : Scheme) (p : Parsed) (width : Nat) : Tool Nat := do
  if let _ :: extra :: _ := p.operands then extraOperand 1 extra
  let name := p.operands.headD "-"
  match ← openOperand name with
  | .error e => fail 1 (quoteName name ++ ": " ++ e.message)
  | .ok fd =>
    let (bytes, failure) ← readWhole fd
    if let some e := failure then fail 1 ("read error: " ++ e.message)
    if p.has "d" then
      let cs := (ByteText.ofBytes bytes).toList.filter (· != '\n')
      let cs := if p.has "i" then cs.filter fun c => c == '=' || scheme.letters.contains c else cs
      let (bytes, ok) := scheme.decode cs
      put bytes
      if !ok then fail 1 "invalid input"
    else
      let (cs, ok) := scheme.encode bytes
      let text := wrapped width cs
      -- A line that is not known to be over is not ended.
      print (if ok then text else String.ofList (text.toList.take (text.length - min width 1)))
      if !ok then fail 1 "invalid input (length must be multiple of 4 characters)"
    return 0

def encoder (scheme : Scheme) (call : Call) : Tool Nat := do
  let (p, width) ← parseInto codingSwitches false 1 call.operands 76 addWidth
  coding scheme p width

def base64 (call : Call) : Tool Nat := encoder .base64 call

def base32 (call : Call) : Tool Nat := encoder .base32 call

def basenc (call : Call) : Tool Nat := do
  let (p, width) ← parseInto (codingSwitches ++ Scheme.named.map fun (name, _) => ⟨name, name, .none⟩) false 1
    call.operands 76 addWidth
  match (p.lastOf? (Scheme.named.map (·.1))).bind (fun key => Scheme.named.lookup key) with
  | some scheme => coding scheme p width
  | none => misuse 1 "missing encoding type"

end PipeShell.Host.Tool
