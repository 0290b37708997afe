import PipeShell.Text.Utf8

/-! # NUL-terminated strings

Arguments reach a program as bytes that end at the first NUL. A text that holds one itself has
no such form, and the place of its first NUL is the reason given. -/

namespace PipeShell

/-- A text cannot be an argument because of the NUL at this byte. -/
structure NulByte where
  position : Nat
  deriving DecidableEq, Repr

def NulByte.message (e : NulByte) : String :=
  s!"nul byte found in provided data at position: {e.position}"

/-- Bytes none of which is NUL. -/
structure CString where
  bytes : List UInt8
  nul_not_mem : 0 ∉ bytes

namespace CString

/-- What lies in memory: the bytes and the NUL that ends them. -/
def memory (s : CString) : List UInt8 := s.bytes ++ [0]

/-- Reads the string that starts at the front of a memory. -/
def readMemory (memory : List UInt8) : List UInt8 := memory.takeWhile (· != 0)

def ofString (text : String) : Except NulByte CString :=
  let bytes := Text.utf8 text
  if h : 0 ∈ bytes then throw ⟨bytes.idxOf 0⟩ else pure ⟨bytes, h⟩

end CString
end PipeShell
