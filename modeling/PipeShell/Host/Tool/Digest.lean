import PipeShell.Host.ByteText
import PipeShell.Power

/-! # Digests

Numbers that stand for the bytes of a file. Most take the bytes in blocks, with a mark at the end
of the message and its length behind it. -/

namespace PipeShell.Host.Tool.Digest

/-! ## Words -/

/-- The words of so many bytes, the greatest byte first or last. -/
def wordsOf (bytes : Array UInt8) (size : Nat) (greatestFirst : Bool) (start count : Nat) : Array Nat :=
  (Array.range count).map fun i =>
    (List.range size).foldl
      (fun word k =>
        let at_ := if greatestFirst then k else size - 1 - k
        word * 256 + (bytes.getD (start + i * size + at_) 0).toNat)
      0

/-- The bytes of a number, the greatest first. -/
def bytesOf (size n : Nat) : List UInt8 :=
  (List.range size).map fun k => UInt8.ofNat (n / 256 ^ (size - 1 - k) % 256)

def hexOf (bytes : List UInt8) : String :=
  String.ofList (bytes.flatMap fun b => [Nat.digitChar (b.toNat / 16), Nat.digitChar (b.toNat % 16)])

/-- The message with a mark, zeros and its length in bits. -/
def padded (block lengthSize : Nat) (greatestFirst : Bool) (bytes : ByteArray) : Array UInt8 :=
  let zeros := (2 * block - 1 - lengthSize - bytes.size % block) % block
  let length := bytesOf lengthSize (bytes.size * 8)
  bytes.data.push 0x80 ++ (List.replicate zeros (0 : UInt8)).toArray ++
    (if greatestFirst then length else length.reverse).toArray

/-- Goes through the blocks of a padded message. -/
def blocks {σ : Type} (block : Nat) (bytes : Array UInt8) (f : σ → Nat → σ) (s : σ) : σ :=
  (List.range (bytes.size / block)).foldl (fun s i => f s (i * block)) s

/-! ## MD5 -/

/-- The whole part of the cube or square root, found bit by bit. -/
def root (power n : Nat) (bits : Nat) : Nat :=
  (List.range bits).foldl
    (fun r k =>
      let tried := r + 2 ^ (bits - 1 - k)
      if tried ^ power ≤ n then tried else r)
    0

def md5Shifts : List UInt32 :=
  let rounds : List (List UInt32) := [[7, 12, 17, 22], [5, 9, 14, 20], [4, 11, 16, 23], [6, 10, 15, 21]]
  rounds.flatMap fun r => (List.replicate 4 r).flatten

def md5Constants : List UInt32 := [
  0xd76aa478, 0xe8c7b756, 0x242070db, 0xc1bdceee, 0xf57c0faf, 0x4787c62a, 0xa8304613, 0xfd469501,
  0x698098d8, 0x8b44f7af, 0xffff5bb1, 0x895cd7be, 0x6b901122, 0xfd987193, 0xa679438e, 0x49b40821,
  0xf61e2562, 0xc040b340, 0x265e5a51, 0xe9b6c7aa, 0xd62f105d, 0x02441453, 0xd8a1e681, 0xe7d3fbc8,
  0x21e1cde6, 0xc33707d6, 0xf4d50d87, 0x455a14ed, 0xa9e3e905, 0xfcefa3f8, 0x676f02d9, 0x8d2a4c8a,
  0xfffa3942, 0x8771f681, 0x6d9d6122, 0xfde5380c, 0xa4beea44, 0x4bdecfa9, 0xf6bb4b60, 0xbebfbc70,
  0x289b7ec6, 0xeaa127fa, 0xd4ef3085, 0x04881d05, 0xd9d4d039, 0xe6db99e5, 0x1fa27cf8, 0xc4ac5665,
  0xf4292244, 0x432aff97, 0xab9423a7, 0xfc93a039, 0x655b59c3, 0x8f0ccc92, 0xffeff47d, 0x85845dd1,
  0x6fa87e4f, 0xfe2ce6e0, 0xa3014314, 0x4e0811a1, 0xf7537e82, 0xbd3af235, 0x2ad7d2bb, 0xeb86d391]

def rotateLeft (x n : UInt32) : UInt32 := (x <<< n) ||| (x >>> (32 - n))

def rotateRight (x n : UInt32) : UInt32 := (x >>> n) ||| (x <<< (32 - n))

/-- Four words. -/
abbrev Four := UInt32 × UInt32 × UInt32 × UInt32

def md5Block (bytes : Array UInt8) (h : Four) (start : Nat) : Four :=
  let m := (wordsOf bytes 4 false start 16).map UInt32.ofNat
  let (a, b, c, d) := ((md5Shifts.zip md5Constants).zipIdx).foldl
    (fun ((a, b, c, d) : Four) ((shift, constant), i) =>
      let (f, g) : UInt32 × Nat :=
        if i < 16 then ((b &&& c) ||| (~~~b &&& d), i)
        else if i < 32 then ((d &&& b) ||| (~~~d &&& c), (5 * i + 1) % 16)
        else if i < 48 then (b ^^^ c ^^^ d, (3 * i + 5) % 16)
        else (c ^^^ (b ||| ~~~d), (7 * i) % 16)
      (d, b + rotateLeft (a + f + constant + m.getD g 0) shift, b, c))
    h
  (h.1 + a, h.2.1 + b, h.2.2.1 + c, h.2.2.2 + d)

def md5 (bytes : ByteArray) : List UInt8 :=
  let message := padded 64 8 false bytes
  let (a, b, c, d) := blocks 64 message (md5Block message) (0x67452301, 0xefcdab89, 0x98badcfe, 0x10325476)
  [a, b, c, d].flatMap fun w => (bytesOf 4 w.toNat).reverse

/-! ## SHA-1 -/

/-- The first words of a block, with as many again as a step needs. -/
def extended {α : Type} (next : Array α → Nat → α) (first : Array α) (count : Nat) : Array α :=
  (List.range (count - 16)).foldl (fun w i => w.push (next w (i + 16))) first

def sha1Block (bytes : Array UInt8) (h : List UInt32) (start : Nat) : List UInt32 :=
  let first := (wordsOf bytes 4 true start 16).map UInt32.ofNat
  let at_ (w : Array UInt32) (i : Nat) : UInt32 := w.getD i 0
  let w := extended (fun w i => rotateLeft (at_ w (i - 3) ^^^ at_ w (i - 8) ^^^ at_ w (i - 14) ^^^ at_ w (i - 16)) 1) first 80
  let mixed := (w.toList.zipIdx).foldl
    (fun (s : List UInt32) (word, i) =>
      match s with
      | [a, b, c, d, e] =>
        let (f, k) : UInt32 × UInt32 :=
          if i < 20 then ((b &&& c) ||| (~~~b &&& d), 0x5a827999)
          else if i < 40 then (b ^^^ c ^^^ d, 0x6ed9eba1)
          else if i < 60 then ((b &&& c) ||| (b &&& d) ||| (c &&& d), 0x8f1bbcdc)
          else (b ^^^ c ^^^ d, 0xca62c1d6)
        [rotateLeft a 5 + f + e + k + word, a, rotateLeft b 30, c, d]
      | s => s)
    h
  List.zipWith (· + ·) h mixed

def sha1 (bytes : ByteArray) : List UInt8 :=
  let message := padded 64 8 true bytes
  (blocks 64 message (sha1Block message) [0x67452301, 0xefcdab89, 0x98badcfe, 0x10325476, 0xc3d2e1f0]).flatMap
    fun w => bytesOf 4 w.toNat

/-! ## SHA-2 -/

/-- The primes below a number. -/
def primesBelow (n : Nat) : List Nat :=
  (List.range n).filter fun p => 2 ≤ p && (List.range p).all fun d => d < 2 || p % d != 0

def primes : List Nat := primesBelow 410

/-- The first bits behind the point of the roots of primes. -/
def rootBits (power bits count : Nat) : List Nat :=
  (primes.take count).map fun p => root power (p * 2 ^ (power * bits)) (bits + 8) % 2 ^ bits

def sha256Constants : List UInt32 := (rootBits 3 32 64).map UInt32.ofNat

def sha256Block (constants : List UInt32) (bytes : Array UInt8) (h : List UInt32) (start : Nat) : List UInt32 :=
  let first := (wordsOf bytes 4 true start 16).map UInt32.ofNat
  let at_ (w : Array UInt32) (i : Nat) : UInt32 := w.getD i 0
  let small (x a b c : UInt32) : UInt32 := rotateRight x a ^^^ rotateRight x b ^^^ (x >>> c)
  let large (x a b c : UInt32) : UInt32 := rotateRight x a ^^^ rotateRight x b ^^^ rotateRight x c
  let w := extended (fun w i => at_ w (i - 16) + small (at_ w (i - 15)) 7 18 3 + at_ w (i - 7) +
    small (at_ w (i - 2)) 17 19 10) first 64
  let mixed := (w.toList.zip constants).foldl
    (fun (s : List UInt32) (word, k) =>
      match s with
      | [a, b, c, d, e, f, g, h] =>
        let one := h + large e 6 11 25 + ((e &&& f) ^^^ (~~~e &&& g)) + k + word
        let two := large a 2 13 22 + ((a &&& b) ^^^ (a &&& c) ^^^ (b &&& c))
        [one + two, a, b, c, d + one, e, f, g]
      | s => s)
    h
  List.zipWith (· + ·) h mixed

def sha224Start : List UInt32 := [0xc1059ed8, 0x367cd507, 0x3070dd17, 0xf70e5939, 0xffc00b31, 0x68581511,
  0x64f98fa7, 0xbefa4fa4]

def sha256Start : List UInt32 := (rootBits 2 32 8).map UInt32.ofNat

def sha256With (start : List UInt32) (size : Nat) (bytes : ByteArray) : List UInt8 :=
  let message := padded 64 8 true bytes
  ((blocks 64 message (sha256Block sha256Constants message) start).flatMap fun w => bytesOf 4 w.toNat).take size

def sha512Constants : List UInt64 := (rootBits 3 64 80).map UInt64.ofNat

def rotateRight64 (x n : UInt64) : UInt64 := (x >>> n) ||| (x <<< (64 - n))

def sha512Block (constants : List UInt64) (bytes : Array UInt8) (h : List UInt64) (start : Nat) : List UInt64 :=
  let first := (wordsOf bytes 8 true start 16).map UInt64.ofNat
  let at_ (w : Array UInt64) (i : Nat) : UInt64 := w.getD i 0
  let small (x a b c : UInt64) : UInt64 := rotateRight64 x a ^^^ rotateRight64 x b ^^^ (x >>> c)
  let large (x a b c : UInt64) : UInt64 := rotateRight64 x a ^^^ rotateRight64 x b ^^^ rotateRight64 x c
  let w := extended (fun w i => at_ w (i - 16) + small (at_ w (i - 15)) 1 8 7 + at_ w (i - 7) +
    small (at_ w (i - 2)) 19 61 6) first 80
  let mixed := (w.toList.zip constants).foldl
    (fun (s : List UInt64) (word, k) =>
      match s with
      | [a, b, c, d, e, f, g, h] =>
        let one := h + large e 14 18 41 + ((e &&& f) ^^^ (~~~e &&& g)) + k + word
        let two := large a 28 34 39 + ((a &&& b) ^^^ (a &&& c) ^^^ (b &&& c))
        [one + two, a, b, c, d + one, e, f, g]
      | s => s)
    h
  List.zipWith (· + ·) h mixed

/-- The bits of the roots of the ninth to the sixteenth prime. -/
def sha384Start : List UInt64 := ((rootBits 2 64 16).drop 8).map UInt64.ofNat

def sha512Start : List UInt64 := (rootBits 2 64 8).map UInt64.ofNat

def sha512With (start : List UInt64) (size : Nat) (bytes : ByteArray) : List UInt8 :=
  let message := padded 128 16 true bytes
  ((blocks 128 message (sha512Block sha512Constants message) start).flatMap fun w => bytesOf 8 w.toNat).take size

/-! ## SM3 -/

def sm3Start : List UInt32 := [0x7380166f, 0x4914b2b9, 0x172442d7, 0xda8a0600, 0xa96f30bc, 0x163138aa,
  0xe38dee4d, 0xb0fb0e4e]

def sm3Block (bytes : Array UInt8) (h : List UInt32) (start : Nat) : List UInt32 :=
  let first := (wordsOf bytes 4 true start 16).map UInt32.ofNat
  let at_ (w : Array UInt32) (i : Nat) : UInt32 := w.getD i 0
  let spread (x a b : UInt32) : UInt32 := x ^^^ rotateLeft x a ^^^ rotateLeft x b
  let w := extended (fun w i =>
    spread (at_ w (i - 16) ^^^ at_ w (i - 9) ^^^ rotateLeft (at_ w (i - 3)) 15) 15 23 ^^^
      rotateLeft (at_ w (i - 13)) 7 ^^^ at_ w (i - 6)) first 68
  let mixed := (List.range 64).foldl
    (fun (s : List UInt32) i =>
      match s with
      | [a, b, c, d, e, f, g, h] =>
        let constant : UInt32 := if i < 16 then 0x79cc4519 else 0x7a879d8a
        let turned := rotateLeft (rotateLeft a 12 + e + rotateLeft constant (UInt32.ofNat (i % 32))) 7
        let (one, two) : UInt32 × UInt32 :=
          if i < 16 then (a ^^^ b ^^^ c, e ^^^ f ^^^ g)
          else ((a &&& b) ||| (a &&& c) ||| (b &&& c), (e &&& f) ||| (~~~e &&& g))
        let one := one + d + (turned ^^^ rotateLeft a 12) + (at_ w i ^^^ at_ w (i + 4))
        let two := two + h + turned + at_ w i
        [one, a, rotateLeft b 9, c, spread two 9 17, e, rotateLeft f 19, g]
      | s => s)
    h
  List.zipWith (· ^^^ ·) h mixed

def sm3 (bytes : ByteArray) : List UInt8 :=
  let message := padded 64 8 true bytes
  (blocks 64 message (sm3Block message) sm3Start).flatMap fun w => bytesOf 4 w.toNat

/-! ## BLAKE2 -/

def blakeOrders : List (List Nat) := [
  [0, 1, 2, 3, 4, 5, 6, 7, 8, 9, 10, 11, 12, 13, 14, 15], [14, 10, 4, 8, 9, 15, 13, 6, 1, 12, 0, 2, 11, 7, 5, 3],
  [11, 8, 12, 0, 5, 2, 15, 13, 10, 14, 3, 6, 7, 1, 9, 4], [7, 9, 3, 1, 13, 12, 11, 14, 2, 6, 5, 10, 4, 0, 15, 8],
  [9, 0, 5, 7, 2, 4, 10, 15, 14, 1, 11, 12, 6, 8, 3, 13], [2, 12, 6, 10, 0, 11, 8, 3, 4, 13, 7, 5, 15, 14, 1, 9],
  [12, 5, 1, 15, 14, 13, 4, 10, 0, 7, 6, 3, 9, 2, 8, 11], [13, 11, 7, 14, 12, 1, 3, 9, 5, 0, 15, 4, 8, 6, 2, 10],
  [6, 15, 14, 9, 11, 3, 0, 8, 12, 2, 13, 7, 1, 4, 10, 5], [10, 2, 8, 4, 7, 6, 1, 5, 15, 11, 9, 14, 3, 12, 13, 0]]

/-- The places of the state that are mixed in turn. -/
def blakePlaces : List (Nat × Nat × Nat × Nat) := [(0, 4, 8, 12), (1, 5, 9, 13), (2, 6, 10, 14), (3, 7, 11, 15),
  (0, 5, 10, 15), (1, 6, 11, 12), (2, 7, 8, 13), (3, 4, 9, 14)]

def blakeMix (v : Array UInt64) (places : Nat × Nat × Nat × Nat) (x y : UInt64) : Array UInt64 :=
  let (i, j, k, l) := places
  let a := v.getD i 0 + v.getD j 0 + x
  let d := rotateRight64 (v.getD l 0 ^^^ a) 32
  let c := v.getD k 0 + d
  let b := rotateRight64 (v.getD j 0 ^^^ c) 24
  let a := a + b + y
  let d := rotateRight64 (d ^^^ a) 16
  let c := c + d
  let b := rotateRight64 (b ^^^ c) 63
  (((v.setIfInBounds i a).setIfInBounds j b).setIfInBounds k c).setIfInBounds l d

def blakeBlock (bytes : Array UInt8) (h : Array UInt64) (start counted : Nat) (isLast : Bool) : Array UInt64 :=
  let m := (wordsOf bytes 8 false start 16).map UInt64.ofNat
  let v := h ++ sha512Start.toArray
  let v := v.modify 12 (· ^^^ UInt64.ofNat counted)
  let v := if isLast then v.modify 14 (~~~·) else v
  let v := (List.range 12).foldl
    (fun v round =>
      let order := blakeOrders.getD (round % 10) []
      (blakePlaces.zipIdx).foldl
        (fun v (places, n) => blakeMix v places (m.getD (order.getD (2 * n) 0) 0) (m.getD (order.getD (2 * n + 1) 0) 0))
        v)
    v
  (Array.range 8).map fun i => h.getD i 0 ^^^ v.getD i 0 ^^^ v.getD (i + 8) 0

/-- A digest of so many bytes. -/
def blake2b (size : Nat) (bytes : ByteArray) : List UInt8 :=
  let start := sha512Start.toArray.modify 0 (· ^^^ UInt64.ofNat (0x01010000 + size))
  let count := max 1 ((bytes.size + 127) / 128)
  let h := (List.range count).foldl
    (fun h i =>
      let isLast := i + 1 == count
      blakeBlock bytes.data h (i * 128) (if isLast then bytes.size else (i + 1) * 128) isLast)
    start
  (h.toList.flatMap fun w => (bytesOf 8 w.toNat).reverse).take size

/-! ## Sums -/

/-- One step of the division by the polynomial of the check sum. -/
def crcByte (crc : UInt32) (b : UInt8) : UInt32 :=
  (List.range 8).foldl
    (fun crc _ => if crc &&& 0x80000000 != 0 then (crc <<< 1) ^^^ 0x04c11db7 else crc <<< 1)
    (crc ^^^ (b.toUInt32 <<< 24))

/-- The bytes of a length, the least first, as many as it has. -/
def lengthBytes (n : Nat) : Nat → List UInt8
  | 0 => []
  | fuel + 1 => if n == 0 then [] else UInt8.ofNat (n % 256) :: lengthBytes (n / 256) fuel

def crc (bytes : ByteArray) : Nat :=
  let sum := bytes.foldl crcByte 0
  (~~~((lengthBytes bytes.size 16).foldl crcByte sum)).toNat

/-- A sum of sixteen bits that is turned by one before each byte. -/
def turnedSum (bytes : ByteArray) : Nat :=
  bytes.foldl (fun sum b => (sum / 2 + sum % 2 * 0x8000 + b.toNat) % 0x10000) 0

/-- The sum of all bytes, folded to sixteen bits. -/
def foldedSum (bytes : ByteArray) : Nat :=
  let sum := bytes.foldl (fun sum b => (sum + b.toNat) % 2 ^ 32) 0
  let r := sum % 0x10000 + sum / 0x10000
  r % 0x10000 + r / 0x10000

end PipeShell.Host.Tool.Digest
