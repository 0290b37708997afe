import PipeShell.Host.World

/-! # What programs do

A program is data: one call on the world after another, each with what follows its answer. Nothing
runs until a scheduler takes the calls of all programs in some order. An `Act` is a part of a
program that brings a value. -/

namespace PipeShell.Host

/-- What a task is going to do. -/
inductive Run where
  | exit (code : Nat)
  /-- A call on the world. One that has no answer yet is made again later. -/
  | call (f : World → Option (Run × World))
  /-- A new task, whose number is the answer. -/
  | fork (child : Run) (next : Nat → Run)

/-- A part of a program, given what follows it. -/
def Act (α : Type) : Type := (α → Run) → Run

namespace Act

variable {α : Type}

instance : Monad Act where
  pure a := fun next => next a
  bind a f := fun next => a fun v => f v next

/-- A call on the world that may have to wait. -/
def await (f : World → Option (α × World)) : Act α := fun next =>
  .call fun w => match f w with
    | none => none
    | some (a, w) => some (next a, w)

/-- A call on the world that is answered at once. -/
def call (f : World → α × World) : Act α := fun next =>
  .call fun w => let (a, w) := f w; some (next a, w)

def look (f : World → α) : Act α := call fun w => (f w, w)

def change (f : World → World) : Act Unit := call fun w => ((), f w)

/-- Ends the task. -/
def exit (code : Nat) : Act α := fun _ => .exit (code % 256)

/-- Starts a task and gives its number. -/
def fork (child : Act Nat) : Act Nat := fun next => .fork (child fun code => .exit (code % 256)) next

/-! ## Files -/

def openFile (path : String) (mode : World.OpenMode) : Act (Except Errno Nat) :=
  call (World.openPath path mode)

def seek (fd whence : Nat) (offset : Int) : Act (Except Errno Nat) := call (World.seek fd whence offset)

/-- The node that a descriptor leads to, and the position in it. -/
def nodeAt? (fd : Nat) : Act (Option (Inode × Nat)) := look (·.nodeAt? fd)

def close (fd : Nat) : Act Unit := change fun w => (w.close fd).2

def read (fd most : Nat) : Act (Except Errno ByteArray) := await (World.read fd most)

/-- How much programs read at a time. -/
def blockSize : Nat := 65536

/-- Writes all bytes. The number bounds how often a write is split. -/
def writeFrom (fd : Nat) (bytes : ByteArray) (start : Nat) : Nat → Act (Except Errno Unit)
  | 0 => pure (.ok ())
  | tries + 1 => do
    let rest := if start == 0 then bytes else bytes.extract start bytes.size
    match ← await (World.write fd rest) with
    | .error e => pure (.error e)
    | .ok n =>
      if bytes.size ≤ start + n then pure (.ok ()) else writeFrom fd bytes (start + n) tries

def write (fd : Nat) (bytes : ByteArray) : Act (Except Errno Unit) :=
  if bytes.isEmpty then pure (.ok ()) else writeFrom fd bytes 0 bytes.size

/-- Reads at most to the end of the line; less if that is not there yet. -/
def readLine (fd : Nat) : Act (Except Errno ByteArray) := await fun w =>
  match w.openFile? fd with
  | .error e => some (.error e, w)
  | .ok (_, file) =>
    let length (content : ByteArray) (start : Nat) : Nat := match content.findIdx? (· == 10) start with
      | some i => i + 1 - start
      | none => content.size - start
    match file.target with
    | .readEnd p => w.read fd (max 1 (length ((w.pipes[p]?).getD .empty) 0))
    | .node i => match w.files.body? i with
      | some (.file content) => w.read fd (length content file.position)
      | _ => w.read fd 1
    | _ => w.read fd 1

/-- Reads to the end. The number bounds how many reads that takes. -/
def readRest (fd : Nat) (done : ByteArray) : Nat → Act (Except Errno ByteArray)
  | 0 => pure (.ok done)
  | tries + 1 => do
    match ← read fd blockSize with
    | .error e => pure (.error e)
    | .ok bytes => if bytes.isEmpty then pure (.ok done) else readRest fd (done ++ bytes) tries

/-- More reads than any program makes. -/
def manyReads : Nat := 1000000000

def readAll (fd : Nat) : Act (Except Errno ByteArray) := readRest fd .empty manyReads

/-- A call on the file system that only looks. -/
def files (f : FileSystem → Inode → α) : Act α := look fun w => f w.files w.cwd

/-- A call on the file system that changes it. -/
def changeFiles (f : FileSystem → Inode → Except Errno FileSystem) : Act (Except Errno Unit) :=
  call fun w => match f { w.files with now := w.clock } w.cwd with
    | .ok files => (.ok (), { w with files })
    | .error e => (.error e, w)

/-- The permission bits of a new file. -/
def maskedMode (mode : Nat) : Act Nat := look fun w => mode &&& (0o777 ^^^ w.currentTask.mask)

/-! ## Tasks -/

def pid : Act Nat := look (·.current)

def send (pid signal : Nat) : Act (Except Errno Unit) := call (World.send pid signal)

/-- What waiting for a child brings. -/
inductive Waited where
  | child (pid : Nat) (status : ExitStatus)
  /-- There is no such child. -/
  | nobody
  /-- A caught signal came first. -/
  | interrupted

/-- Takes a child that has ended: this one, or the oldest of all. -/
def takeChild (which : Option Nat) (w : World) : Option (Nat × ExitStatus) × World :=
  let mine := w.tasks.filter fun t => t.parent == w.current && (which.isNone || which == some t.pid)
  match mine.find? (·.ended.isSome) with
  | some t =>
    (t.ended.map fun status => (t.pid, status),
      { w with tasks := w.tasks.filter (·.pid != t.pid) })
  | none => (none, w)

def hasChild (which : Option Nat) (w : World) : Bool :=
  w.tasks.any fun t => t.parent == w.current && (which.isNone || which == some t.pid)

/-- Waits for a child; if `interruptible`, no longer than until a caught signal comes. -/
def wait (which : Option Nat) (interruptible : Bool) : Act Waited := await fun w =>
  match takeChild which w with
  | (some (pid, status), w) => some (.child pid status, w)
  | (none, w) =>
    if !hasChild which w then some (.nobody, w)
    else if interruptible && !w.currentTask.pending.isEmpty then some (.interrupted, w)
    else none

/-- A child that has ended already, if there is one. -/
def poll (which : Option Nat) : Act (Option (Nat × ExitStatus)) := call (takeChild which)

/-- Waits until a time, or until something else happens before. -/
def sleepUntil (time : Nat) (early : World → Bool) : Act Unit := do
  change fun w => w.modifyCurrent fun t => { t with wakes := some time }
  await fun w => if time ≤ w.clock || early w then some ((), w) else none
  change fun w => w.modifyCurrent fun t => { t with wakes := none }

def now : Act Nat := look (·.clock)

/-- What a signal does to a task. -/
inductive Disposition where
  | byDefault | ignored | caught
  deriving DecidableEq, Repr

def setDisposition (signal : Nat) (d : Disposition) : Act Unit := change fun w =>
  w.modifyCurrent fun t => { t with
    ignored := if d = .ignored then signal :: t.ignored else t.ignored.filter (· != signal)
    caught := if d = .caught then signal :: t.caught else t.caught.filter (· != signal) }

/-- The caught signals that have come since the last look. -/
def takePending : Act (List Nat) := call fun w =>
  (w.currentTask.pending, if w.currentTask.pending.isEmpty then w
    else w.modifyCurrent fun t => { t with pending := [] })

/-- Gives the task a new image: caught signals have their default effect again, and the
descriptors that are marked for it are closed. -/
def becomeImage : Act Unit := change fun w => w.modifyCurrent fun t =>
  { t with
    caught := [], pending := []
    handles := t.handles.filter fun (_, h) => !h.closeOnExec }

/-- Replaces the image of a task by the program at a path, with its words and its environment; it
goes on only if that is not possible. -/
abbrev Exec := (path : String) → (argv environment : List String) → Act Errno

end Act

/-! ## Scheduling -/

/-- A task that has not ended, and what it is going to do. -/
structure Running where
  pid : Nat
  run : Run

namespace World

/-- A copy of the current task under a number of its own. -/
def addChild (w : World) : Nat × World :=
  let pid := w.lastPid + 1
  let child := { w.currentTask with pid, parent := w.current, pending := [], doom := none, wakes := none }
  (pid, { w with lastPid := pid, tasks := w.tasks ++ [child] })

/-- How long a call takes, in microseconds. -/
def callTime : Nat := 20

/-- Lets a task go on for a number of calls: what is left of it, the tasks that it has started, and
whether it has done anything. -/
def advance (pid : Nat) (run : Run) (started : List Running) (moved : Bool) (w : World) :
    Nat → Option Run × List Running × Bool × World
  | 0 => (some run, started, true, w)
  | calls + 1 =>
    match (w.task? pid).bind (·.doom) with
    | some signal => (none, started, true, w.endTask pid (.signaled signal))
    | none => match run with
      | .exit code => (none, started, true, w.endTask pid (.exited code))
      | .fork child next =>
        let (new, w) := w.addChild
        w.advance pid (next new) (started ++ [⟨new, child⟩]) true calls
      | .call f => match f w with
        | none => (some run, started, moved, w)
        | some (run, w) =>
          advance pid run started true { w with clock := w.clock + callTime } calls

/-- How many calls a task makes before it is the turn of the others. -/
def turn : Nat := 5000

/-- Lets each task go on in its turn, those that are started last. -/
def advanceAll (w : World) (done : List Running) (moved : Bool) :
    List Running → List Running × Bool × World
  | [] => (done, moved, w)
  | r :: rest =>
    let (left, started, active, w) := advance r.pid r.run [] false { w with current := r.pid } turn
    let done := done ++ (left.map fun run => ⟨r.pid, run⟩).toList ++ started
    advanceAll w.forgetOrphans done (moved || active) rest

/-- When the next sleeping task wakes. -/
def nextWake? (w : World) : Option Nat :=
  (w.tasks.filterMap fun t => if t.ended.isSome then none else t.wakes).min?

/-- Lets all tasks go on until none can, or until `stop`. A world in which all sleep goes on at the
time when the first wakes. The number bounds how many rounds there are. -/
def settle (stop : World → Bool) (w : World) (running : List Running) :
    Nat → World × List Running
  | 0 => (w, running)
  | rounds + 1 =>
    if stop w then (w, running)
    else
      let (running, moved, w) := w.advanceAll [] false running
      if moved then settle stop w running rounds
      else match w.nextWake? with
        | some time =>
          if time ≤ w.clock then (w, running)
          else settle stop { w with clock := time } running rounds
        | none => (w, running)

end World
end PipeShell.Host
