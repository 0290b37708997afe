import PipeShell.Host.Environment
import PipeShell.Host.Executable
import PipeShell.Launch.Launching

/-! # Machines

A kernel for the launcher: its descriptor table and its children over the world of programs. A child
runs while somebody waits for one; nobody can tell, since a launcher that is not waiting does
nothing that a child could see. -/

namespace PipeShell.Host
open Launch

/-- The open files at the ends of a pipe. -/
structure Ends where
  pipe : Nat
  readFile : Nat
  writeFile : Nat

/-- The launcher's table has no more descriptors than this. -/
def tableSize : Nat := 1024

structure Machine where
  world : World
  environment : Environment := []
  /-- The descriptors of the launcher, each below the limit. -/
  table : Table := .standard
  descriptorLimit : Nat := tableSize
  pipes : List Ends := []
  /-- The children that run, and the tasks that these have started. -/
  running : List Running := []
  /-- Whether the launcher may become a user who runs nothing else. -/
  changesUser : Bool := false
  /-- How many tasks the launcher's user may have, if that is limited. -/
  taskLimit : Option Nat := none
  records : List Log.Record := []

namespace Machine

/-! ## Children -/

/-- The open file that a descriptor of the launcher leads to. -/
def fileOf (pipes : List Ends) (d : Descriptor) : Option Nat :=
  match d.resource with
  | .input => some 0
  | .output => some 1
  | .errors => some 2
  | .readEnd p => (pipes.find? (·.pipe == p)).map (·.readFile)
  | .writeEnd p => (pipes.find? (·.pipe == p)).map (·.writeFile)

/-- The descriptors of a table as those of a task. -/
def handlesOf (pipes : List Ends) (limit : Nat) (table : Table) : List (Nat × Handle) :=
  (List.range limit).filterMap fun fd => do
    let d ← table fd
    let file ← fileOf pipes d
    some (fd, { file, closeOnExec := d.closeOnExec })

def argvOf (program : Program) : List String :=
  program.arguments.map fun bytes => ByteText.ofBytes ⟨bytes.toArray⟩

section

variable (pipes : List Ends) (limit : Nat) (environment : Environment)

def searchPath : Option String := (environment.lookup "PATH").map ByteText.ofBytes

/-- Whether the words of a program and the entries of its environment find room. -/
def fitting (program : Program) : Bool := Executable.fits (argvOf program) environment.entries

def setHandles (table : Table) : Act Unit := Act.change fun w =>
  w.modifyCurrent fun t => { t with handles := handlesOf pipes limit table }

/-- What a child does, from its creation to its end. The number bounds how many calls it makes
before it has its program. -/
def live : Nat → Process → Act Nat
  | 0, _ => return redirectFailed
  | fuel + 1, process => do
    setHandles pipes limit process.table
    match process with
    | .ended code => return code
    | .replaced program _ => do
      match ← Act.files fun fs cwd =>
          Executable.imageFor fs cwd (fitting environment program) (searchPath environment) (argvOf program) with
      | .ok image =>
        Act.becomeImage
        Executable.runImage (Executable.exec Executable.maxDepth) image environment.entries
      | .error _ => return notFound
    | .starting calls _ => do
      match process.writes with
      | some (fd, bytes) =>
        let _ ← Act.write fd ⟨bytes.toArray⟩
      | none => pure ()
      match calls with
      | .defaultSigpipe :: _ => Act.setDisposition World.brokenPipe .byDefault
      | _ => pure ()
      let executes ← Act.files fun fs cwd => fun program =>
        (Executable.imageFor fs cwd (fitting environment program) (searchPath environment) (argvOf program)).isOk
      live fuel (process.step executes)

/-- More calls than a child makes before it has its program. -/
def startingCalls (plan : ChildPlan) : Nat := plan.calls.length + 2

end

/-! ## System calls -/

/-- Takes the two lowest free descriptors. -/
def makePipe (m : Machine) : Except Errno (Fd × Fd) × Machine :=
  match m.table.free? m.descriptorLimit with
  | none => (.error .tooManyFiles, m)
  | some readEnd =>
    let p := m.world.pipes.size
    let table := m.table.set readEnd (some ⟨.readEnd p, true⟩)
    match table.free? m.descriptorLimit with
    | none => (.error .tooManyFiles, m)
    | some writeEnd =>
      let files := m.world.opened.size
      (.ok (readEnd, writeEnd), { m with
        table := table.set writeEnd (some ⟨.writeEnd p, true⟩)
        pipes := ⟨p, files, files + 1⟩ :: m.pipes
        world := { m.world with
          pipes := m.world.pipes.push .empty
          opened := (m.world.opened.push { target := .readEnd p }).push
            { target := .writeEnd p, reads := false, writes := true } } })

/-- Gives the launcher's task the descriptors of its table. -/
def withHandles (m : Machine) : Machine :=
  let handles := handlesOf m.pipes m.descriptorLimit m.table
  { m with world := m.world.modifyTask World.shellPid fun t => { t with handles } }

/-- Limits the tasks of the launcher's user. There is no such limit for the superuser, so the
launcher becomes a user who has no other tasks. -/
def limitTasks (most : Nat) (m : Machine) : Except Errno Machine :=
  if m.changesUser then pure { m with taskLimit := some most } else throw .invalidArgument

/-- Whether the launcher's user may have no more tasks. -/
def isCrowded (m : Machine) : Bool := m.taskLimit.any (· ≤ m.world.tasks.length)

/-- A child begins with the descriptors that the launcher has at that time. -/
def fork (plan : ChildPlan) (m : Machine) : Except Errno Nat × Machine :=
  if m.isCrowded then (.error .tryAgain, m) else
  let m := m.withHandles
  let (pid, world) := { m.world with current := World.shellPid }.addChild
  let world := if m.descriptorLimit < tableSize then
      world.modifyTask pid fun t => { t with
        quotas := [(.descriptors, { t.quota .descriptors with soft := some m.descriptorLimit })] }
    else world
  let program := live m.pipes m.descriptorLimit m.environment (startingCalls plan)
    (Process.created plan m.table)
  (.ok pid, { m with
    world
    running := m.running ++ [⟨pid, program fun code => .exit (code % 256)⟩] })

/-- The word that a wait reports. -/
def rawStatus : ExitStatus → UInt32
  | .exited code => UInt32.ofNat (code.toNat % 256) <<< 8
  | .signaled signal => UInt32.ofNat signal.toNat

/-- How often the tasks may take their turns while somebody waits. -/
def maxRounds : Nat := 1000000

/-- How often they do when nobody waits any more. -/
def lastRounds : Nat := 100

/-- Lets the tasks run until the time would have to go on, but not for long. -/
def settleLast (m : Machine) : Machine :=
  let now := m.world.clock
  let (world, running) := m.world.settle (fun w => now + 100000 < w.clock) m.running lastRounds
  { m with world, running }

/-- Waits for a child. One that cannot go on is killed. -/
def wait (pid : Nat) (m : Machine) : Except Errno UInt32 × Machine :=
  let m := m.withHandles
  let isOver (w : World) : Bool := match w.task? pid with
    | some t => t.ended.isSome
    | none => true
  let (world, running) := m.world.settle isOver m.running maxRounds
  let m := { m with world, running }
  match world.task? pid with
  | none => (.error .noChild, m)
  | some t =>
    let status := t.ended.getD (.signaled 9)
    let world := { world with
      tasks := world.tasks.filter (·.pid != pid) }
    (.ok (rawStatus status), { m with world, running := running.filter (·.pid != pid) })

def kernel : Launching.Kernel Machine where
  pipe := makePipe
  fork := fork
  close fd m := { m with table := m.table.close fd }
  wait := wait
  log record m := { m with records := m.records ++ [record] }

/-- Launches a command on this machine. -/
def launch (command : Command) (m : Machine) : Except LaunchError (List Child) × Machine :=
  let (answer, m) := (Launch.launch none command).run kernel m
  (answer, m.settleLast)

/-! ## The shell's own task -/

/-- Whether children that end leave nothing to wait for. -/
def forgetChildren (m : Machine) : Machine :=
  { m with world := m.world.modifyTask World.shellPid fun t =>
      { t with ignored := World.childSignal :: t.ignored } }

def cwd (m : Machine) : Inode :=
  match m.world.task? World.shellPid with
  | some t => t.cwd
  | none => FileSystem.root

def setCwd (cwd : Inode) (m : Machine) : Machine :=
  { m with world := m.world.modifyTask World.shellPid fun t => { t with cwd } }

/-- A call of the shell itself. -/
def call {α : Type} (f : World → α × World) (m : Machine) : α × Machine :=
  let (a, world) := f { m.world with current := World.shellPid }
  (a, { m with world })

/-- Where the output of a machine goes. -/
inductive Sink where
  | shown
  /-- A device without room. -/
  | full
  /-- A pipe that nobody reads. -/
  | unread
  deriving DecidableEq, Repr

/-- A machine with these files on which a shell stands in a directory and has something to read. -/
def ofFiles (files : FileSystem) (cwd : Inode) (input : ByteArray) (sink : Sink) : Machine :=
  let (files, i) := files.addNameless (.file input)
  let (files, j) := files.addNameless (.device .full)
  let shown : Target := match sink with
    | .shown => .output
    | .full => .node j
    | .unread => .writeEnd 0
  let shell : Task := {
    pid := World.shellPid, parent := 0, cwd
    handles := [(0, { file := 0 }), (1, { file := 1 }), (2, { file := 2 })]
    ignored := [World.brokenPipe] }
  { world := {
      files
      opened := #[{ target := .node i }, { target := shown, reads := false, writes := true },
        { target := .errors, reads := false, writes := true }]
      pipes := #[.empty]
      tasks := [shell] } }

end Machine
end PipeShell.Host
