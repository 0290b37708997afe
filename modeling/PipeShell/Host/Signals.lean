import PipeShell.Launch.Basic
import PipeShell.Power

/-! # Signals by name -/

namespace PipeShell.Host.Signals

/-- The names of the signals from 0 on, which stands for the end of a script; a number stands where
there is no name. -/
def names : List String :=
  ["EXIT", "HUP", "INT", "QUIT", "ILL", "TRAP", "ABRT", "BUS", "FPE", "KILL", "USR1", "SEGV",
    "USR2", "PIPE", "ALRM", "TERM", "16", "CHLD", "CONT", "STOP", "TSTP", "TTIN", "TTOU", "URG",
    "XCPU", "XFSZ", "VTALRM", "PROF", "WINCH", "IO", "PWR", "SYS", "32", "33", "RTMIN"] ++
  (List.range 15).map (fun i => s!"RTMIN+{i + 1}") ++
  (List.range 14).map (fun i => s!"RTMAX-{14 - i}") ++ ["RTMAX"]

/-- What is said of a process that a signal has ended. -/
def descriptions : List String := [
  "", "Hangup", "Interrupt", "Quit", "Illegal instruction", "Trace/breakpoint trap", "Aborted",
  "Bus error", "Floating point exception", "Killed", "User defined signal 1",
  "Segmentation fault", "User defined signal 2", "Broken pipe", "Alarm clock", "Terminated",
  "Stack fault", "Child exited", "Continued", "Stopped (signal)", "Stopped",
  "Stopped (tty input)", "Stopped (tty output)", "Urgent I/O condition",
  "CPU time limit exceeded", "File size limit exceeded", "Virtual timer expired",
  "Profiling timer expired", "Window changed", "I/O possible", "Power failure",
  "Bad system call"]

def description (signal : Nat) : String :=
  match descriptions[signal]? with
  | some text => text
  | none => if 34 ≤ signal && signal ≤ 64 then s!"Real-time signal {signal - 34}" else s!"Unknown signal {signal}"

def isNumber (text : String) : Bool := !text.isEmpty && text.toList.all Char.isDigit

/-- The number of a signal that is given by number or, in capitals or not, by name. -/
def number? (text : String) (least : Nat) : Option Nat :=
  if isNumber text then
    let n := text.toNat?.getD 65
    if n ≤ 64 then some n else none
  else
    let name := text.map Char.toUpper
    match names.idxOf? name with
    | some n => if least ≤ n then some n else none
    | none => none

/-- The names that tools know besides those above. -/
def otherNames : List (String × Nat) := [("IOT", 6), ("STKFLT", 16), ("CLD", 17), ("POLL", 29), ("EXIT", 0)]

/-- The name by which a tool shows a signal. -/
def label? (signal : Nat) : Option String :=
  if signal == 29 then some "POLL"
  else if signal == 16 then some "STKFLT"
  else if signal == 32 || signal == 33 then none
  else if signal == 49 then some "RTMIN+15"
  else names[signal]?

/-- A number of a real-time signal that is counted from the first or the last. -/
def relative? (name : String) : Option Nat :=
  let after (start : String) (mark : Char) : Option Nat := do
    let rest := name.toList.drop start.length
    if !name.startsWith start then none
    match rest with
    | [] => some 0
    | c :: digits => if c == mark && isNumber (String.ofList digits) then (String.ofList digits).toNat? else none
  match after "RTMIN" '+', after "RTMAX" '-' with
  | some n, _ => if n ≤ 30 then some (34 + n) else none
  | none, some n => if n ≤ 30 then some (64 - n) else none
  | none, none => none

/-- The signal that is given to a tool: by number, which may be that of a status, or by name with or
without what signals' names begin with. -/
def ofOperand? (text : String) : Option Nat := do
  let plain (name : String) : Option Nat :=
    (otherNames.lookup name).or <| (relative? name).or <|
      if isNumber name then name.toNat? else names.idxOf? name
  let signal ← match text.toList with
    | c :: _ =>
      if c.isDigit then
        if !isNumber text then none
        else
          let n := (text.toNat?).getD 0
          if n < 2 ^ 31 then some (if 255 ≤ n then n % 256 else n % 128) else none
      else
        let name := text.map Char.toUpper
        (plain name).or (if name.startsWith "SIG" then plain (String.ofList (name.toList.drop 3)) else none)
    | [] => none
  let _ ← label? signal
  return signal

end PipeShell.Host.Signals
