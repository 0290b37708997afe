import PipeShell.Host.Script.Expansion

/-! # Redirections

A redirection puts an open file, another descriptor or a document behind a descriptor. What the
descriptor was before is kept, to be put back when the command is over. -/

namespace PipeShell.Host.Script.Redirect

/-- A redirection whose words have been expanded. -/
inductive Prepared where
  | file (mode : FileMode) (fd : Nat) (path : String)
  | duplicate (fd : Nat) (source : Option Nat)
  | document (fd : Nat) (number : Nat)

def Prepared.fd : Prepared → Nat
  | file _ fd _ | duplicate fd _ | document fd _ => fd

variable (substitute : Option Command → Sh String)

/-- What is said of a word that is no descriptor. -/
def badNumber {α : Type} : Sh α := Sh.fail "Syntax error: Bad fd number"

def prepare : Redirection → Sh Prepared
  | .file mode fd path => do
    return .file mode fd (← Expansion.text substitute { tilde := true } path)
  | .duplicate fd source => return .duplicate fd source
  | .document fd number => return .document fd number
  | .duplicateWord fd word => do
    let text ← Expansion.text substitute { tilde := true } word
    match text.toList with
    | ['-'] => return .duplicate fd none
    | [d] =>
      if d.isDigit then return .duplicate fd (some (d.toNat - '0'.toNat))
      else badNumber
    | _ => badNumber

/-- Why a file could not be opened or made. -/
def reason (e : Errno) (missing : String) : String :=
  if e = .notFound || e = .notDirectory then missing else e.message

/-- Opens a file and gives its descriptor. -/
def openFile (mode : FileMode) (path : String) : Sh Nat := do
  let use (how : World.OpenMode) (verb missing : String) : Sh Nat := do
    match ← Sh.act (Act.openFile path how) with
    | .ok fd => return fd
    | .error e => Sh.fail (verb ++ " " ++ path ++ ": " ++ reason e missing)
  let make (how : World.OpenMode) : Sh Nat := use how "cannot create" "Directory nonexistent"
  let created : World.OpenMode := { write := true, create := some 0o666 }
  match mode with
  | .read => use { read := true } "cannot open" "No such file"
  | .readWrite => make { created with read := true }
  | .append => make { created with append := true }
  | .clobber => make { created with truncate := true }
  | .write =>
    if !(← get).option "noclobber" then make { created with truncate := true }
    else
      let isFile ← Sh.act (Act.files fun fs cwd => match fs.resolve cwd path true with
        | .error _ => none
        | .ok i => match fs.body? i with
          | some (.file _) | some (.program _) => some true
          | _ => some false)
      match isFile with
      | none => make { created with exclusive := true }
      | some false => make { write := true }
      | some true => Sh.fail ("cannot create " ++ path ++ ": " ++ Errno.fileExists.message)

/-- Makes a pipe from which a document can be read. One that is long is written by a task of its
own. -/
def openDocument (number : Nat) : Sh Nat := do
  let document := ((← get).documents[number]?).getD default
  let text ← if document.expands then Expansion.text substitute { quoted := true } document.text
    else pure (Word.literal document.text)
  let bytes := ByteText.toBytes text
  let (readEnd, writeEnd) ← Sh.makePipe
  Sh.act do
    if bytes.size ≤ World.pipeUnit then
      let _ ← Act.write writeEnd bytes
    else
      let _ ← Act.fork do
        Act.close readEnd
        let _ ← Act.write writeEnd bytes
        return 0
    Act.close writeEnd
    return readEnd

/-- Puts what a descriptor stands for out of the way of scripts. -/
def moveAway (fd : Nat) : Sh Nat := do
  let answer ← Sh.act (Act.call (World.duplicateAbove fd 10))
  Sh.act (Act.close fd)
  match answer with
  | .ok copy => return copy
  | .error e => Sh.fail (toString fd ++ ": " ++ e.message)

/-- Remembers what a descriptor is, unless that has been done for this command, and closes it. -/
def save (fd : Nat) (saved : List (Nat × Saved)) : Sh (List (Nat × Saved)) := do
  if (saved.lookup fd).isSome then return saved
  match ← Sh.act (Act.call (World.duplicateAbove fd 10)) with
  | .ok copy =>
    Sh.act (Act.close fd)
    return (fd, .copy copy) :: saved
  | .error e =>
    if e != .badDescriptor then
      Sh.act (Act.close fd)
      Sh.fail (toString fd ++ ": " ++ e.message)
    return (fd, .closed) :: saved

/-- Puts one redirection into effect. -/
def apply (keeps : Bool) (r : Prepared) : Sh Unit := do
  let fd := r.fd
  let saveOld (isThere : Bool) : Sh Unit := do
    if keeps then
      match (← get).redirected with
      | saved :: outer =>
        let saved ← if isThere then pure (if (saved.lookup fd).isSome then saved else (fd, .closed) :: saved)
          else save fd saved
        modify fun s => { s with redirected := saved :: outer }
      | [] => pure ()
  let move (new : Nat) : Sh Unit := do
    saveOld (new == fd)
    if new != fd then
      let _ ← Sh.act (Act.call (World.duplicate new fd))
      Sh.act (Act.close new)
  match r with
  | .file mode _ path => do move (← openFile mode path)
  | .document _ number => do move (← openDocument substitute number)
  | .duplicate _ none =>
    saveOld false
    Sh.act (Act.close fd)
  | .duplicate _ (some source) =>
    if source != fd then
      saveOld false
      match ← Sh.act (Act.call (World.duplicate source fd)) with
      | .ok () => pure ()
      | .error e => Sh.fail (toString source ++ ": " ++ e.message)

/-- Begins to remember redirections. -/
def push : Sh Unit := modify fun s => { s with redirected := [] :: s.redirected }

/-- Puts back what the last redirections have replaced, or lets them stay if `drop`. -/
def pop (drop : Bool) : Sh Unit := do
  match (← get).redirected with
  | [] => pure ()
  | saved :: outer =>
    for (fd, before) in saved do
      match before with
      | .closed => if !drop then Sh.act (Act.close fd)
      | .copy copy =>
        if !drop then
          let _ ← Sh.act (Act.call (World.duplicate copy fd))
        Sh.act (Act.close copy)
    modify fun s => { s with redirected := outer }

/-- Puts redirections into effect whose words have been expanded. A mistake is a status. -/
def applyAll (rs : List Prepared) : Sh Nat := do
  match ← Sh.attempt (rs.forM (apply substitute true)) with
  | .ok () => return 0
  | .error .mistake => return 2
  | .error j => throw j

end PipeShell.Host.Script.Redirect
