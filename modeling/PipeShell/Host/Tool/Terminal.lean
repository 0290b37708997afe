import PipeShell.Host.Tool.Options

/-! # The settings of a terminal

No host has a terminal, so they can be asked for and given but neither shown nor changed. -/

namespace PipeShell.Host.Tool
namespace Terminal

/-- Settings that may be turned off by a dash in front. -/
def reversible : List String := ["parenb", "parodd", "cmspar", "hupcl", "hup", "cstopb", "cread",
  "clocal", "crtscts", "ignbrk", "brkint", "ignpar", "parmrk", "inpck", "istrip", "inlcr", "igncr",
  "icrnl", "ixon", "ixoff", "tandem", "iuclc", "ixany", "imaxbel", "iutf8", "opost", "olcuc", "ocrnl",
  "onlcr", "onocr", "onlret", "ofill", "ofdel", "isig", "icanon", "iexten", "echo", "echoe", "crterase",
  "echok", "echonl", "noflsh", "xcase", "tostop", "echoprt", "prterase", "echoctl", "ctlecho", "echoke",
  "crtkill", "flusho", "extproc", "evenp", "parity", "oddp", "nl", "cooked", "raw", "pass8", "litout",
  "cbreak", "decctlq", "tabs", "lcase", "LCASE", "drain"]

/-- Settings that may not. -/
def firm : List String := ["cs5", "cs6", "cs7", "cs8", "nl1", "nl0", "cr3", "cr2", "cr1", "cr0", "tab3",
  "tab2", "tab1", "tab0", "bs1", "bs0", "vt1", "vt0", "ff1", "ff0", "ek", "sane", "crt", "dec", "size",
  "speed"]

/-- Settings with a value behind them. -/
def valued : List String := ["intr", "quit", "erase", "kill", "eof", "eol", "eol2", "swtch", "start",
  "stop", "susp", "rprnt", "werase", "lnext", "discard", "min", "time", "ispeed", "ospeed", "rows",
  "cols", "columns", "line"]

/-- The speeds that a terminal may have. -/
def speeds : List Nat := [0, 50, 75, 110, 134, 150, 200, 300, 600, 1200, 1800, 2400, 4800, 9600, 19200,
  38400, 57600, 115200, 230400, 460800, 500000, 576000, 921600, 1000000, 1152000, 1500000, 2000000,
  2500000, 3000000, 3500000, 4000000]

def isSpeed (word : String) : Bool :=
  word == "exta" || word == "extb" || word == "134.5" || (word.toNat?.any speeds.contains)

/-- Ends the tool if there is something wrong with the settings. -/
def checkSettings : List String → Tool Unit
  | [] => return
  | word :: rest => do
    let invalid : Tool Unit := misuse 1 ("invalid argument " ++ quote word)
    match word.toList with
    | '-' :: cs =>
      if reversible.contains (String.ofList cs) then checkSettings rest else invalid
    | _ =>
      if reversible.contains word || firm.contains word || isSpeed word then checkSettings rest
      else if valued.contains word then
        match rest with
        | [] => misuse 1 ("missing argument to " ++ quote word)
        | _ :: rest => checkSettings rest
      else invalid

/-- What a call asks for. -/
structure Wanted where
  showsAll : Bool := false
  /-- Whether settings are shown so that they can be given again. -/
  saves : Bool := false
  file : Option String := none
  settings : List String := []

/-- The words of a call, where a file behind an option is one word with it. -/
def joined : List String → List String
  | "-F" :: path :: rest | "--file" :: path :: rest => ("--file=" ++ path) :: joined rest
  | word :: rest => word :: joined rest
  | [] => []

/-- Tells options and settings apart. -/
def addWord (w : Wanted) (word : String) : Tool Wanted := do
  if word == "-a" || word == "--all" then return { w with showsAll := true }
  else if word == "-g" || word == "--save" then return { w with saves := true }
  else if word == "-ag" || word == "-ga" then return { w with showsAll := true, saves := true }
  else
    let skipped := if word.startsWith "--file=" then 7 else 2
    if word.startsWith "--file=" || (word.startsWith "-F" && word != "-F") then
      if w.file.isSome then fail 1 "only one device may be specified"
      return { w with file := some (String.ofList (word.toList.drop skipped)) }
    else return { w with settings := w.settings ++ [word] }

end Terminal

open Terminal in
def stty (call : Call) : Tool Nat := do
  let w ← (joined call.operands).foldlM addWord {}
  if w.showsAll && w.saves then
    fail 1 "the options for verbose and stty-readable output styles are\nmutually exclusive"
  if !w.settings.isEmpty && (w.showsAll || w.saves) then
    fail 1 "when specifying an output style, modes may not be set"
  checkSettings w.settings
  match w.file with
  | none => fail 1 (quoteName "standard input" ++ ": Inappropriate ioctl for device")
  | some path => match ← act (Act.openFile path { read := true }) with
    | .error e => fail 1 (quoteName path ++ ": " ++ e.message)
    | .ok _ => fail 1 (quoteName path ++ ": Inappropriate ioctl for device")

end PipeShell.Host.Tool
