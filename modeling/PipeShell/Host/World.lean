import PipeShell.Host.FileSystem.Change
import PipeShell.Host.Quota
import PipeShell.Launch.Basic
import PipeShell.Power
import PipeShell.Signal

/-! # The world of running programs

What programs share and can change: the file system, open files, pipes, and what is known of each
task that runs. A call of a task is a function on the world, in which `current` says whose call it
is. A call that has to wait has no answer yet. -/

namespace PipeShell.Host

/-- What an open file leads to. -/
inductive Target where
  | node (i : Inode)
  | readEnd (pipe : Nat)
  | writeEnd (pipe : Nat)
  /-- What the machine shows as its output and its error output. -/
  | output
  | errors
  deriving DecidableEq, Repr

/-- A file as it was opened. All descriptors that were duplicated from one another share it. -/
structure OpenFile where
  target : Target
  position : Nat := 0
  reads : Bool := true
  writes : Bool := false
  /-- Whether everything is written at the end. -/
  append : Bool := false

/-- What a descriptor stands for. -/
structure Handle where
  file : Nat
  closeOnExec : Bool := false

/-- What the system knows of a program that runs. -/
structure Task where
  pid : Nat
  parent : Nat
  handles : List (Nat × Handle) := []
  cwd : Inode
  /-- The permission bits that new files do not get. -/
  mask : Nat := 0o022
  /-- How far the task stands back behind others. -/
  niceness : Int := 0
  /-- The limits that are not those of every task. -/
  quotas : List (Resource × Quota) := []
  ignored : List Nat := []
  caught : List Nat := []
  /-- The caught signals that have come and have not been seen. -/
  pending : List Nat := []
  /-- The signal that the task is going to die of. -/
  doom : Option Nat := none
  /-- When a task that sleeps is to be woken. -/
  wakes : Option Nat := none
  ended : Option ExitStatus := none

/-- The limit of a task on a resource. -/
def Task.quota (t : Task) (r : Resource) : Quota := (t.quotas.lookup r).getD r.quota

structure World where
  files : FileSystem
  opened : Array OpenFile := #[]
  /-- What has been written to each pipe and not been read. -/
  pipes : Array ByteArray := #[]
  /-- In the order in which they were created. -/
  tasks : List Task := []
  current : Nat := 1
  lastPid : Nat := 1
  /-- In microseconds. -/
  clock : Nat := startTime
  output : ByteArray := .empty
  errors : ByteArray := .empty
  /-- The interrupts that the shell has counted, if it handles them. -/
  interrupts : UInt64 := 0
  handlesInterrupts : Bool := false

namespace World

/-- The task of the shell itself. -/
def shellPid : Nat := 1

/-! ## Tasks -/

def task? (w : World) (pid : Nat) : Option Task := w.tasks.find? (·.pid == pid)

def modifyTask (pid : Nat) (f : Task → Task) (w : World) : World :=
  { w with tasks := w.tasks.map fun t => if t.pid == pid then f t else t }

def modifyCurrent (f : Task → Task) (w : World) : World := w.modifyTask w.current f

/-- A task that is not there has no descriptors and stands at the root. -/
def currentTask (w : World) : Task :=
  (w.task? w.current).getD { pid := w.current, parent := 0, cwd := FileSystem.root }

def cwd (w : World) : Inode := w.currentTask.cwd

/-- The signal that tells of the end of a child. -/
def childSignal : Nat := 17

/-- Ends a task: its descriptors are closed, its children belong to nobody. A parent that ignores
the ends of its children leaves nothing to wait for. -/
def endTask (pid : Nat) (status : ExitStatus) (w : World) : World :=
  let tasks := w.tasks.filter fun t => !(t.parent == pid && t.ended.isSome)
  let forgets (t : Task) : Bool := match w.task? t.parent with
    | some parent => parent.ignored.contains childSignal
    | none => false
  { w with tasks := tasks.map fun t =>
      if t.pid == pid then
        { t with handles := [], ended := some status, parent := if forgets t then 0 else t.parent }
      else if t.parent == pid then { t with parent := 0 } else t }

/-- Removes what is left of tasks that nobody waits for. -/
def forgetOrphans (w : World) : World :=
  { w with tasks := w.tasks.filter fun t => !(t.parent == 0 && t.ended.isSome) }

/-! ## Open files -/

/-- The open file behind a descriptor of the current task. -/
def openFile? (w : World) (fd : Nat) : Except Errno (Nat × OpenFile) :=
  match w.currentTask.handles.lookup fd with
  | none => throw .badDescriptor
  | some handle => match w.opened[handle.file]? with
    | none => throw .badDescriptor
    | some file => pure (handle.file, file)

/-- The node that a descriptor leads to, and the position in it. -/
def nodeAt? (w : World) (fd : Nat) : Option (Inode × Nat) :=
  match w.openFile? fd with
  | .ok (_, { target := .node i, position, .. }) => some (i, position)
  | _ => none

/-- Whether a task that runs holds this target. -/
def holds (w : World) (target : Target) : Bool :=
  w.tasks.any fun t => t.ended.isNone && t.handles.any fun (_, h) =>
    match w.opened[h.file]? with
    | some file => file.target == target
    | none => false

/-- Makes a descriptor stand for an open file. -/
def setHandle (fd : Nat) (handle : Handle) (w : World) : World :=
  w.modifyCurrent fun t => { t with handles := (fd, handle) :: t.handles.filter (·.1 != fd) }

/-- The lowest descriptor from `least` on that is free. -/
def lowestFree (w : World) (least : Nat) : Nat :=
  let used := w.currentTask.handles.map (·.1)
  ((List.range (used.length + 1)).map (· + least)).find? (!used.contains ·) |>.getD least

/-- Whether the current task may have a descriptor with this number. -/
def allowsDescriptor (w : World) (fd : Nat) : Bool :=
  match (w.currentTask.quota .descriptors).soft with
  | some most => fd < most
  | none => true

/-- The lowest descriptor from `least` on that is free, if there may be one. -/
def freeDescriptor (w : World) (least : Nat) : Except Errno Nat :=
  let fd := w.lowestFree least
  if w.allowsDescriptor fd then pure fd else throw .tooManyFiles

/-- Opens a file under the lowest free descriptor. -/
def addHandle (file : OpenFile) (w : World) : Except Errno Nat × World :=
  match w.freeDescriptor 0 with
  | .ok fd => (.ok fd, { w with opened := w.opened.push file }.setHandle fd { file := w.opened.size })
  | .error e => (.error e, w)

def close (fd : Nat) (w : World) : Except Errno Unit × World :=
  match w.currentTask.handles.lookup fd with
  | none => (.error .badDescriptor, w)
  | some _ =>
    (.ok (), w.modifyCurrent fun t => { t with handles := t.handles.filter (·.1 != fd) })

/-- Makes `target` stand for what `source` does. -/
def duplicate (source target : Nat) (w : World) : Except Errno Unit × World :=
  match w.currentTask.handles.lookup source with
  | none => (.error .badDescriptor, w)
  | some handle =>
    if source = target then (.ok (), w)
    else if !w.allowsDescriptor target then (.error .badDescriptor, w)
    else (.ok (), w.setHandle target { file := handle.file })

/-- Makes a free descriptor from `least` on, closed on exec, stand for what `source` does. -/
def duplicateAbove (source least : Nat) (w : World) : Except Errno Nat × World :=
  match w.currentTask.handles.lookup source with
  | none => (.error .badDescriptor, w)
  | some handle =>
    if !w.allowsDescriptor least then (.error .invalidArgument, w)
    else match w.freeDescriptor least with
      | .ok fd => (.ok fd, w.setHandle fd { file := handle.file, closeOnExec := true })
      | .error e => (.error e, w)

/-- How a file is to be opened. -/
structure OpenMode extends FileSystem.Opening where
  read : Bool := false
  append : Bool := false

/-- Opens the file that a path names. A device that stands for a descriptor leads to what that
descriptor leads to, at its start. -/
def openPath (path : String) (mode : OpenMode) (w : World) : Except Errno Nat × World :=
  if let .error e := w.freeDescriptor 0 then (.error e, w)
  else
  let files := { w.files with now := w.clock }
  let how := { mode.toOpening with create := mode.create.map fun m => m &&& (0o777 ^^^ w.currentTask.mask) }
  match files.openNode w.cwd path how FileSystem.maxLinks with
  | .error e => (.error e, w)
  | .ok (files, i) =>
    let file (target : Target) : OpenFile :=
      { target, reads := mode.read, writes := mode.write, append := mode.append }
    let done (target : Target) := { w with files }.addHandle (file target)
    match files.body? i with
    | some (.device .terminal) => (.error ⟨6⟩, w)
    | some (.device (.absent ..)) => (.error ⟨1⟩, w)
    | some (.device (.descriptor fd)) => match w.openFile? fd with
      | .error _ => (.error .notFound, w)
      | .ok (_, behind) => match behind.target with
        | .node j =>
          { w with files := if mode.truncate then files.truncated j else files }.addHandle (file (.node j))
        | .readEnd p => done (if mode.write && !mode.read then .writeEnd p else .readEnd p)
        | .writeEnd p => done (if mode.read && !mode.write then .readEnd p else .writeEnd p)
        | target => done target
    | some (.fifo p) => done (if mode.write then .writeEnd p else .readEnd p)
    | _ => done (.node i)

/-- Makes a pipe and gives the descriptors of its two ends. -/
def makePipe (w : World) : Except Errno (Nat × Nat) × World :=
  let p := w.pipes.size
  match { w with pipes := w.pipes.push .empty }.addHandle { target := .readEnd p } with
  | (.error e, _) => (.error e, w)
  | (.ok readEnd, after) =>
    match after.addHandle { target := .writeEnd p, reads := false, writes := true } with
    | (.error e, _) => (.error e, w)
    | (.ok writeEnd, after) => (.ok (readEnd, writeEnd), after)

/-! ## Signals -/

def ignoredByDefault : List Nat := [17, 18, 23, 28]

/-- Whether the output of the shell is the machine's. -/
def showsOutput (w : World) : Bool :=
  match w.opened[1]? with
  | some file => file.target == .output
  | none => false

/-- Sends a signal. The shell counts interrupts if it handles them; nothing else reaches it. -/
def send (pid signal : Nat) (w : World) : Except Errno Unit × World :=
  if pid == shellPid then
    if signal == Signal.interrupt.toNat && w.handlesInterrupts then
      let (count, text) := Signal.handle Signal.interrupt w.interrupts
      (.ok (), { w with
        interrupts := count, output := if w.showsOutput then w.output ++ text.toUTF8 else w.output })
    else (.ok (), w)
  else match w.task? pid with
    | none => (.error ⟨3⟩, w)
    | some t =>
      let receive (t : Task) : Task :=
        if signal == 0 || t.ended.isSome then t
        else if signal == 9 then { t with doom := some 9 }
        else if t.ignored.contains signal then t
        else if t.caught.contains signal then { t with pending := t.pending ++ [signal] }
        else if ignoredByDefault.contains signal then t
        else { t with doom := t.doom.or (some signal) }
      if signal > 64 then (.error .invalidArgument, w)
      else (.ok (), w.modifyTask t.pid receive)

/-- A write that nobody can read any more. -/
def brokenPipe : Nat := 13

/-- A write beyond the size that files may have. -/
def fileTooLarge : Nat := 25

/-! ## Reading and writing -/

/-- How much a pipe holds. -/
def pipeCapacity : Nat := 65536

/-- What is written to a pipe in so many bytes stays together. -/
def pipeUnit : Nat := 4096

def setPosition (file position : Nat) (w : World) : World :=
  { w with opened := w.opened.modify file fun f => { f with position } }

/-- The bytes of a device that nobody can tell in advance. -/
def noise (clock i : Nat) : UInt8 :=
  let n := (clock * 1000003 + i) * 2654435761 % 2 ^ 32
  UInt8.ofNat ((n * 40503 + n / 65536) / 256)

/-- Reads at most so many bytes, none at the end. -/
def read (fd most : Nat) (w : World) : Option (Except Errno ByteArray × World) :=
  match w.openFile? fd with
  | .error e => some (.error e, w)
  | .ok (index, file) =>
    if !file.reads then some (.error .badDescriptor, w)
    else match file.target with
      | .readEnd p =>
        let content := (w.pipes[p]?).getD .empty
        if content.isEmpty then
          if w.holds (.writeEnd p) then none else some (.ok .empty, w)
        else
          some (.ok (content.extract 0 most),
            { w with pipes := w.pipes.setIfInBounds p (content.extract most content.size) })
      | .node i => match w.files.body? i with
        | some (.file content) =>
          let bytes := content.extract file.position (file.position + most)
          let files := { w.files with now := w.clock }.noteAccess i
          some (.ok bytes, { w with files }.setPosition index (file.position + bytes.size))
        | some (.directory ..) => some (.error .isDirectory, w)
        | some (.device .zero) | some (.device .full) =>
          some (.ok ⟨(List.replicate most 0).toArray⟩, w)
        | some (.device .random) =>
          some (.ok ⟨((List.range most).map (noise w.clock)).toArray⟩, w)
        | _ => some (.ok .empty, w)
      | _ => some (.error .badDescriptor, w)

/-- Writes at a position; a gap before it is filled with zeros. -/
def overwrite (content : ByteArray) (position : Nat) (bytes : ByteArray) : ByteArray :=
  if position == content.size then content ++ bytes
  else
    let gap : ByteArray := ⟨(List.replicate (position - content.size) 0).toArray⟩
    content.extract 0 position ++ gap ++ bytes ++
      content.extract (position + bytes.size) content.size

/-- How much of a file from a position on may be written. -/
def spaceFrom (position : Nat) (w : World) : Option Nat :=
  (w.currentTask.quota .fileSize).soft.map (· - position)

/-- Tells the current task that a file would become too large. -/
def refuseGrowth {α : Type} (w : World) : Except Errno α × World :=
  (.error ⟨27⟩, (w.send w.current fileTooLarge).2)

/-- Writes to a file at a position, or at its end, as far as the file may grow. -/
def writeNode (index : Nat) (file : OpenFile) (i : Inode) (bytes : ByteArray) (w : World) :
    Except Errno Nat × World :=
  match w.files.body? i with
  | some (.file content) =>
    let position := if file.append then content.size else file.position
    let space := w.spaceFrom position
    if space == some 0 && !bytes.isEmpty then w.refuseGrowth
    else
    let bytes := match space with
      | some most => bytes.extract 0 most
      | none => bytes
    let now := Moment.ofMicroseconds w.clock
    let nodes := w.files.nodes.modify i fun n => match n.body with
      | .file content => { n with
          body := .file (overwrite content position bytes), modified := now, changed := now }
      | _ => n
    (.ok bytes.size,
      { w with files := { w.files with nodes } }.setPosition index (position + bytes.size))
  | some (.device .full) => (.error ⟨28⟩, w)
  | _ => (.ok bytes.size, w)

/-- Writes some of the bytes and says how many. -/
def write (fd : Nat) (bytes : ByteArray) (w : World) : Option (Except Errno Nat × World) :=
  match w.openFile? fd with
  | .error e => some (.error e, w)
  | .ok (index, file) =>
    if !file.writes then some (.error .badDescriptor, w)
    else match file.target with
      | .output => some (.ok bytes.size, { w with output := w.output ++ bytes })
      | .errors => some (.ok bytes.size, { w with errors := w.errors ++ bytes })
      | .node i => some (w.writeNode index file i bytes)
      | .readEnd _ => some (.error .badDescriptor, w)
      | .writeEnd p =>
        if !w.holds (.readEnd p) then
          some (.error ⟨32⟩, (w.send w.current brokenPipe).2)
        else
          let content := (w.pipes[p]?).getD .empty
          let space := pipeCapacity - content.size
          if space == 0 || (bytes.size ≤ pipeUnit && space < bytes.size) then none
          else
            let part := bytes.extract 0 space
            some (.ok part.size, { w with pipes := w.pipes.setIfInBounds p (content ++ part) })

/-- Moves the position of an open file, if it has one: by so much from its start, from where it is
or from its end. -/
def seek (fd : Nat) (whence : Nat) (offset : Int) (w : World) : Except Errno Nat × World :=
  match w.openFile? fd with
  | .error e => (.error e, w)
  | .ok (index, file) => match file.target with
    | .node i =>
      let size := match w.files.body? i with
        | some (.file content) => content.size
        | _ => 0
      let base : Int := match whence with
        | 0 => 0
        | 1 => file.position
        | _ => size
      if base + offset < 0 then (.error .invalidArgument, w)
      else
        let position := (base + offset).toNat
        (.ok position, w.setPosition index position)
    | _ => (.error ⟨29⟩, w)

end World
end PipeShell.Host
