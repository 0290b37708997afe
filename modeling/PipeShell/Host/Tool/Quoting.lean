import PipeShell.Host.Encoding

/-! # Names in messages

How tools show a name or another word: in quotation marks, and with escapes for what cannot be
shown, so that a command line could use it again. Which characters can be shown depends on the
encoding, so a message keeps the words in it as they are until it is written. -/

namespace PipeShell.Host.Tool

/-! ## Escapes -/

/-- What stands behind the backslash for a character, if there is a letter for it. -/
def escapeLetter? (c : Char) : Option Char :=
  match c.toNat with
  | 7 => some 'a'
  | 8 => some 'b'
  | 9 => some 't'
  | 10 => some 'n'
  | 11 => some 'v'
  | 12 => some 'f'
  | 13 => some 'r'
  | _ => none

def isPrintable (c : Char) : Bool := 32 ≤ c.toNat && c.toNat < 127

/-- Three octal digits. -/
def octal (c : Char) : String :=
  let digit (n : Nat) : Char := Char.ofNat (48 + n % 8)
  let n := c.toNat
  String.ofList [digit (n / 64), digit (n / 8), digit n]

/-- A backslash and a letter, or three octal digits. -/
def escaped (c : Char) : String :=
  match escapeLetter? c with
  | some letter => String.ofList ['\\', letter]
  | none => "\\" ++ octal c

/-! ## Styles -/

/-- How a word is shown. -/
inductive NameStyle where
  | literal
  /-- For a command line; the second one always with quotation marks, the other two with escapes
  for what cannot be shown. -/
  | shell | shellAlways | shellEscape | shellEscapeAlways
  /-- Between double quotation marks; the second one only where they are needed. -/
  | c | cMaybe
  | escape
  /-- Between the quotation marks of the locale. -/
  | locale | clocale
  deriving DecidableEq, BEq, Repr

/-- The styles by name. -/
def NameStyle.named : List (String × NameStyle) := [("literal", .literal), ("shell", .shell),
  ("shell-always", .shellAlways), ("shell-escape", .shellEscape),
  ("shell-escape-always", .shellEscapeAlways), ("c", .c), ("c-maybe", .cMaybe), ("escape", .escape),
  ("locale", .locale), ("clocale", .clocale)]

/-- The way of one pass over a word. -/
structure Marks where
  encoding : Encoding
  /-- Escapes begin with a backslash. -/
  escapes : Bool
  /-- The escapes are those of a command line, with quotation marks of their own. -/
  isShell : Bool
  /-- It is tried to do without the marks around the word. -/
  elided : Bool
  left : String := ""
  right : String := ""
  /-- More characters to be escaped. -/
  also : List Char := []

/-- What a pass has shown so far. -/
structure Shown where
  text : String := ""
  /-- Whether the last character stands between the marks of an escape. -/
  isOpen : Bool := false
  /-- Whether there was an apostrophe. -/
  apostrophe : Bool := false
  /-- Whether all characters stand for themselves between either kind of marks. -/
  isPlain : Bool := true

namespace Shown

/-- Begins an escape; nothing if it needs marks around the word. -/
def startEscape (m : Marks) (s : Shown) : Option Shown :=
  if m.elided then none
  else if m.isShell && !s.isOpen then some { s with text := s.text ++ "'$'\\", isOpen := true }
  else some { s with text := s.text.push '\\' }

/-- Adds characters outside of an escape. -/
def add (text : String) (s : Shown) : Shown :=
  if s.isOpen then { s with text := s.text ++ "''" ++ text, isOpen := false }
  else { s with text := s.text ++ text }

/-- Adds a character that has a letter for its escape. -/
def addLettered (m : Marks) (letter : Char) (s : Shown) : Option Shown :=
  (s.startEscape m).map fun s => { s with text := s.text.push letter, isPlain := false }

/-- Adds bytes as octal numbers. -/
def addOctal (m : Marks) : List Char → Shown → Option Shown
  | [], s => some s
  | c :: cs, s => (s.startEscape m).bind fun s => addOctal m cs { s with text := s.text ++ octal c }

end Shown

/-- The characters that mean something to a command line. -/
def shellSpecial : List Char := " !\"$&()*;<=>[^\x60|".toList

/-- Characters that are harmless in every style. -/
def isHarmless (c : Char) : Bool := c.isAlphanum || "%+,-./:]_".toList.contains c

/-- Adds a character to what is shown; nothing if the word needs marks around it. -/
def showGlyph (m : Marks) (isFirst isOnly : Bool) (g : Glyph) (s : Shown) : Option Shown :=
  let isRight := m.escapes && !m.isShell && g.text == m.right
  if isRight && m.elided then none
  else
    let c := g.bytes.headD ' '
    let forced := m.isShell && m.elided
    let stored (isPlain : Bool) : Option Shown :=
      let escapes := ((m.escapes && !m.isShell) || m.elided) && m.also.contains c
      let s := { s with isPlain := s.isPlain && isPlain }
      if escapes || isRight then
        (s.startEscape m).map fun s => { s with text := s.text ++ g.text }
      else some (s.add g.text)
    let special (isPlain : Bool) : Option Shown := if forced then none else stored isPlain
    match escapeLetter? c with
    | some letter =>
      if forced && (c == '\n' || c == '\r' || c == '\t') then none
      else if m.escapes then s.addLettered m letter
      else stored false
    | none =>
      if c == '\\' then
        if m.isShell then (if m.elided then none else some { s.add "\\" with isPlain := false })
        else if m.escapes && m.elided && !m.right.isEmpty then some { s.add "\\" with isPlain := false }
        else if m.escapes then s.addLettered m c
        else stored false
      else if c == '?' then (if forced then none else stored false)
      else if c == '\x7b' || c == '\x7d' then (if isOnly then special true else stored false)
      else if c == '#' || c == '~' then (if isFirst then special true else stored false)
      else if shellSpecial.contains c then special (c == ' ')
      else if c == '\'' then
        let s := { s with apostrophe := true }
        if m.isShell then
          if m.elided then none
          else some { s with text := s.text ++ "'\\''", isOpen := false }
        else (stored true).map fun s => { s with apostrophe := true }
      else if isHarmless c then stored true
      else if m.escapes && !g.isShown then (s.addOctal m g.bytes).map fun s => { s with isPlain := false }
      else if g.bytes.length > 1 then
        let s := { s with isPlain := s.isPlain && g.isShown }
        some (s.add ((if isRight then "\\" else "") ++ g.text))
      else stored g.isShown

/-- A pass over a word; nothing if the word needs marks around it. -/
def showGlyphs (m : Marks) (isFirst isOnly : Bool) : List Glyph → Shown → Option Shown
  | [], s => some s
  | g :: gs, s => (showGlyph m isFirst isOnly g s).bind (showGlyphs m false isOnly gs)

/-- The result of a pass, with the marks around it. -/
def showWith (m : Marks) (text : ByteText) : Option Shown :=
  let isOnly := text.length == 1
  let left := if m.elided then "" else m.left
  match showGlyphs m true isOnly (m.encoding.glyphs text) { text := left } with
  | none => none
  | some s =>
    if text.isEmpty && m.isShell && m.elided then none
    else some { s with text := s.text ++ (if m.elided then "" else m.right) }

def doubleMarks (e : Encoding) (elided : Bool) (also : List Char) : Marks :=
  { encoding := e, escapes := true, isShell := false, elided, left := "\"", right := "\"", also }

def showDouble (e : Encoding) (text : ByteText) : String :=
  ((showWith (doubleMarks e false []) text).getD {}).text

/-- Between apostrophes, or between double marks if those are enough. -/
def showSingle (e : Encoding) (escapes : Bool) (text : ByteText) : String :=
  let m : Marks := { encoding := e, escapes, isShell := true, elided := false, left := "'", right := "'" }
  let s := (showWith m text).getD {}
  if s.apostrophe && s.isPlain then showDouble e text else s.text

/-- A word in a style. Some more characters may have to be escaped, or call for quotation marks. -/
def styled (e : Encoding) (style : NameStyle) (also : List Char) (text : ByteText) : String :=
  let single (escapes : Bool) : String :=
    let m : Marks := { encoding := e, escapes, isShell := true, elided := true, left := "'", right := "'", also }
    match showWith m text with
    | some s => s.text
    | none => showSingle e escapes text
  let marked (left right : String) : String :=
    ((showWith { encoding := e, escapes := true, isShell := false, elided := false, left, right, also } text).getD {}).text
  match style with
  | .literal => text
  | .shell => single false
  | .shellEscape => single true
  | .shellAlways => showSingle e false text
  | .shellEscapeAlways => showSingle e true text
  | .c => marked "\"" "\""
  | .cMaybe => match showWith (doubleMarks e true also) text with
    | some s => s.text
    | none => showDouble e text
  | .escape => marked "" ""
  | .locale | .clocale => match e with
    | .bytes => if style == .locale then marked "'" "'" else marked "\"" "\""
    | .utf8 => marked "\xe2\x80\x98" "\xe2\x80\x99"

/-! ## Messages -/

/-- A part of a message. -/
inductive Message.Part where
  | text (text : String)
  /-- A word that is shown in a style, with more characters that call for quotation marks. -/
  | word (style : NameStyle) (also : List Char) (word : ByteText)

/-- A text in which words are quoted. -/
structure Message where
  parts : List Message.Part := []

namespace Message

def ofString (text : String) : Message := ⟨[.text text]⟩

instance : Coe String Message := ⟨ofString⟩

def append (a b : Message) : Message := ⟨a.parts ++ b.parts⟩

instance : Append Message := ⟨append⟩

def Part.shown (e : Encoding) : Part → String
  | .text s => s
  | .word style also s => styled e style also s

/-- The message as it is written. -/
def shown (e : Encoding) (m : Message) : String :=
  match m.parts with
  | [part] => part.shown e
  | parts => String.join (parts.map (Part.shown e))

/-- Several messages with a text between them. -/
def intercalate (between : String) : List Message → Message
  | [] => {}
  | [m] => m
  | m :: ms => m.append ((ofString between).append (intercalate between ms))

def concat (ms : List Message) : Message := ⟨ms.flatMap (·.parts)⟩

end Message

/-- A word between quotation marks of a message. -/
def quote (word : ByteText) : Message := ⟨[.word .locale [] word]⟩

/-- As a shell reads it back: between single quotation marks, in which escapes have marks of their
own. -/
def shellQuoted (word : ByteText) : Message := ⟨[.word .shellEscapeAlways [] word]⟩

/-- A name that is shown as it is, unless a shell would read it in another way. -/
def shellMaybe (word : ByteText) : Message := ⟨[.word .shellEscape [] word]⟩

/-- A name in front of a colon. -/
def quoteName (word : ByteText) : Message := ⟨[.word .shellEscape [':'] word]⟩

end PipeShell.Host.Tool
