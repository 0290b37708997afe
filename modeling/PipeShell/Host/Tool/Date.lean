import PipeShell.Host.Time.Description
import PipeShell.Host.Time.Form
import PipeShell.Host.Tool.Options

/-! # `date`

Shows moments in a form: the present one, that of a description, or when a file was changed. Nobody
may set the clock. -/

namespace PipeShell.Host.Tool

/-- The zone of an environment. -/
def zoneOf (environment : List String) : Zone := Zone.ofName (valueIn environment "TZ")

/-- The present moment in nanoseconds. -/
def presentMoment : Tool Int := return Moment.ofMicroseconds (← act Act.now)

/-- A moment in a form. -/
def formed (zone : Zone) (form : String) (moment : Int) : String :=
  Form.shown (.ofMoment zone moment) form

namespace Dating

/-- How much of a date and a time is shown. -/
inductive Precision where
  | hours | minutes | date | seconds | nanoseconds
  deriving DecidableEq, BEq

def precisions : List (String × Precision) := [("hours", .hours), ("minutes", .minutes),
  ("date", .date), ("seconds", .seconds), ("ns", .nanoseconds)]

/-- A date and a time with a `T` between them. -/
def joinedForm : Precision → String
  | .date => "%Y-%m-%d"
  | .hours => "%Y-%m-%dT%H%:z"
  | .minutes => "%Y-%m-%dT%H:%M%:z"
  | .seconds => "%Y-%m-%dT%H:%M:%S%:z"
  | .nanoseconds => "%Y-%m-%dT%H:%M:%S,%N%:z"

/-- A date and a time with a blank between them. -/
def spacedForm : Precision → String
  | .seconds => "%Y-%m-%d %H:%M:%S%:z"
  | .nanoseconds => "%Y-%m-%d %H:%M:%S.%N%:z"
  | _ => "%Y-%m-%d"

def mailForm : String := "%a, %d %b %Y %H:%M:%S %z"

def usualForm : String := "%a %b %e %H:%M:%S %Z %Y"

/-- The last second whose year can be counted, and the first one. -/
def lastSecond : Int := 67768036191676799

def firstSecond : Int := -67768040609740800

/-- Shows a moment. -/
def put (zone : Zone) (form : String) (moment : Int) : Tool Bool := do
  let seconds := moment.fdiv 1000000000
  if seconds < firstSecond || lastSecond < seconds then
    warn ("time " ++ quote (toString seconds) ++ " is out of range")
    return false
  print (formed zone form moment ++ "\n")
  return true

/-- Shows the moments of the lines of a file. The number bounds how many there are. -/
def putLines (zone : Zone) (form : String) (now : Int) (input : LineInput) (ok : Bool) :
    Nat → Tool (Bool × LineInput)
  | 0 => return (ok, input)
  | fuel + 1 => do
    match ← input.next 10 Act.manyReads with
    | (none, input) => return (ok, input)
    | (some line, input) =>
      let text := ByteText.ofBytes line
      match Description.read? zone now text with
      | some moment => putLines zone form now input ((← Dating.put zone form moment) && ok) fuel
      | none =>
        warn ("invalid date " ++ quote text)
        putLines zone form now input false fuel

def switches : List Switch := [.letter 'd' "date" .required, ⟨"debug", "debug", .none⟩,
  .letter 'f' "file" .required, .letter 'I' "iso-8601" .optional, .letter 'r' "reference" .required,
  ⟨"resolution", "resolution", .none⟩, .letter 'R' "rfc-email" .none, ⟨"R", "rfc-822", .none⟩,
  ⟨"R", "rfc-2822", .none⟩, ⟨"rfc-3339", "rfc-3339", .required⟩, .letter 's' "set" .required,
  .letter 'u' "utc" .none, ⟨"u", "uct", .none⟩, ⟨"u", "universal", .none⟩]

/-- Takes the form from an option, if it chooses one; more than one is a mistake. -/
def addForm (form : Option String) (given : Given) : Tool (Option String) := do
  let (key, value) := given
  let chosen : Option String ← match key with
    | "R" => pure (some mailForm)
    | "I" => do
      let precision ← match value with
        | some word => choose "--iso-8601" precisions word
        | none => pure .date
      pure (some (joinedForm precision))
    | "rfc-3339" => do
      pure (some (spacedForm (← choose "--rfc-3339" (precisions.drop 2) (value.getD ""))))
    | _ => pure none
  if chosen.isSome && form.isSome then fail 1 "multiple output formats specified"
  return chosen.or form

end Dating

open Dating in
def date (call : Call) : Tool Nat := do
  let (p, form) ← parseInto switches false 1 call.operands none addForm
  let sources := (["d", "f", "r", "resolution"].filter p.has).length
  if 1 < sources then
    misuse 1 "the options to specify dates for printing are mutually exclusive"
  if p.has "s" && 0 < sources then
    misuse 1 "the options to print and set the time may not be used together"
  let (form, digits) : Option String × Option String ← match p.operands with
    | [] => pure (form, none)
    | [word] =>
      if word.startsWith "+" then
        if form.isSome then fail 1 "multiple output formats specified"
        pure (some (String.ofList (word.toList.drop 1)), none)
      else if p.has "s" || 0 < sources then
        misuse 1 ("the argument " ++ quote word ++ " lacks a leading '+';\n" ++
          "when using an option to specify date(s), any non-option\n" ++
          "argument must be a format string beginning with '+'")
      else pure (form, some word)
    | _ :: extra :: _ => extraOperand 1 extra
  let form := form.getD (if p.has "resolution" then "%s.%N" else usualForm)
  let zone := if p.has "u" then Zone.universal else zoneOf call.environment
  let now ← presentMoment
  if let some name := p.last? "f" then
    let shown := if name == "-" then "standard input" else name
    match ← openOperand name with
    | .error e => fail 1 (quoteName shown ++ ": " ++ e.message)
    | .ok fd =>
      let (ok, input) ← putLines zone form now { fd } true Act.manyReads
      closeOperand fd
      if let some e := input.failure then fail 1 (quoteName shown ++ ": read error: " ++ e.message)
      return if ok then 0 else 1
  let described (text : String) (moment : Option Int) : Tool Int := match moment with
    | some moment => return moment
    | none => fail 1 ("invalid date " ++ quote text)
  let moment : Int ← match digits, p.last? "s", p.last? "d", p.last? "r" with
    | some text, _, _, _ => described text (Description.ofDigits? zone true now text)
    | none, some text, _, _ | none, none, some text, _ => described text (Description.read? zone now text)
    | none, none, none, some path =>
      match ← files fun fs cwd => (fs.resolve cwd path true).map fun i => fs.node? i with
      | .ok n => pure ((n.map (·.modified)).getD 0)
      | .error e => fail 1 (quoteName path ++ ": " ++ e.message)
    | none, none, none, none => pure (if p.has "resolution" then 1 else now)
  let sets := digits.isSome || p.has "s"
  if sets then warn "cannot set date: Operation not permitted"
  let ok ← Dating.put zone form moment
  return if ok && !sets then 0 else 1

end PipeShell.Host.Tool
