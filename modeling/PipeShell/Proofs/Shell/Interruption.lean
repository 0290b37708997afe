import PipeShell.Log.Filter
import PipeShell.Proofs.Shell.Launched
import PipeShell.Proofs.Shell.Refusal

/-! # Interrupted waits

What happens in a run, in one order: exchanges, and signals that the handler gets in between
(`Event`). The count of interrupts is what the handler has made of it (`handled_eq`), so two
readings differ exactly if there were interrupts between them, as long as these did not take the
count all the way round (`Counted.ne_iff`).

A step reads the count twice if it launches a command and can tell the user how that went, and
otherwise it has nothing to report (`Stepping.cases_wait`). A wait lasts from the one reading to the
other (`Wait`): it is the launch and the telling how that went, so it ends a little later than the
launch. It is reported exactly if there was an interrupt in it (`steps_interruptions`). -/

namespace PipeShell

/-! ## The count -/

/-- What happens in a run: something is said, or the handler gets a signal. -/
inductive Event where
  | said (x : Exchange)
  | signal (number : Int)

namespace Event

def exchange? : Event → Option Exchange
  | said x => some x
  | signal _ => none

/-- What the event makes of the count. -/
def count (n : UInt64) : Event → UInt64
  | said _ => n
  | signal number => (Signal.handle number n).1

def isInterrupt : Event → Bool
  | said _ => false
  | signal number => number == Signal.interrupt

end Event

/-- What is said. -/
def said (events : List Event) : List Exchange := events.filterMap Event.exchange?

/-- How many of the signals are interrupts. -/
def interruptsIn (events : List Event) : Nat := events.countP Event.isInterrupt

/-- The count after these events. -/
def handled (start : UInt64) (events : List Event) : UInt64 := events.foldl Event.count start

/-- Each reading shows the count as it stands then. -/
def Counted : UInt64 → List Event → Prop
  | _, [] => True
  | count, event :: events =>
    (∀ n, event = .said (.interrupts n) → n = count) ∧ Counted (event.count count) events

section
variable {start n m : UInt64} {events pre during post : List Event} {x : Exchange}
  {trace trace₁ trace₂ : List Exchange}

@[simp] theorem said_nil : said [] = [] := rfl

@[simp] theorem said_append : said (pre ++ post) = said pre ++ said post := List.filterMap_append

@[simp] theorem said_cons : said (.said x :: events) = x :: said events := rfl

@[simp] theorem said_signal {number : Int} : said (.signal number :: events) = said events := rfl

theorem said_eq_append_iff : said events = trace₁ ++ trace₂ ↔
    ∃ pre post, events = pre ++ post ∧ said pre = trace₁ ∧ said post = trace₂ :=
  List.filterMap_eq_append_iff

theorem exists_of_said_eq_cons (h : said events = x :: trace) :
    ∃ pre post, events = pre ++ .said x :: post ∧ said pre = [] ∧ said post = trace := by
  obtain ⟨pre, event, post, rfl, hpre, hevent, hpost⟩ := List.filterMap_eq_cons_iff.mp h
  cases event with
  | signal number => cases hevent
  | said y =>
    obtain rfl := Option.some.inj hevent
    exact ⟨pre, post, rfl, List.filterMap_eq_nil_iff.mpr hpre, hpost⟩

theorem exists_of_said_eq_append_cons (h : said events = trace₁ ++ x :: trace₂) :
    ∃ pre post, events = pre ++ .said x :: post ∧ said pre = trace₁ ∧ said post = trace₂ := by
  obtain ⟨pre, rest, rfl, rfl, hrest⟩ := said_eq_append_iff.mp h
  obtain ⟨gap, post, rfl, hgap, rfl⟩ := exists_of_said_eq_cons hrest
  exact ⟨pre ++ gap, post, by simp, by simp [hgap], rfl⟩

theorem handled_append : handled start (pre ++ post) = handled (handled start pre) post :=
  List.foldl_append

theorem handled_said : handled start (.said x :: events) = handled start events := rfl

/-- The handler counts the interrupts and nothing else. -/
theorem handled_eq (start : UInt64) (events : List Event) :
    handled start events = start + UInt64.ofNat (interruptsIn events) := by
  induction events generalizing start with
  | nil => simp [handled, interruptsIn]
  | cons event events ih =>
    have hstep : event.count start = start + UInt64.ofNat (if event.isInterrupt then 1 else 0) := by
      cases event with
      | said x => simp [Event.count, Event.isInterrupt]
      | signal number =>
        by_cases h : number = Signal.interrupt <;>
          simp [Event.count, Event.isInterrupt, Signal.handle, h]
    calc handled start (event :: events)
        = handled (event.count start) events := List.foldl_cons ..
      _ = start + (UInt64.ofNat (if event.isInterrupt then 1 else 0) +
            UInt64.ofNat (interruptsIn events)) := by rw [ih, hstep, UInt64.add_assoc]
      _ = start + UInt64.ofNat (interruptsIn (event :: events)) := by
          rw [← UInt64.ofNat_add, Nat.add_comm, interruptsIn, interruptsIn, List.countP_cons]

theorem Counted.reading_eq (h : Counted start (pre ++ .said (.interrupts n) :: post)) :
    n = handled start pre := by
  induction pre generalizing start with
  | nil => exact h.1 n rfl
  | cons event pre ih => exact ih h.2

/-- Fewer interrupts than the count has values always change it. -/
theorem Counted.ne_iff
    (h : Counted start (pre ++ .said (.interrupts n) :: (during ++ .said (.interrupts m) :: post)))
    (hfew : interruptsIn during < 2 ^ 64) : m ≠ n ↔ 0 < interruptsIn during := by
  have hfirst : n = handled start pre := h.reading_eq
  rw [← List.cons_append, ← List.append_assoc] at h
  have hsecond : m = handled start (pre ++ .said (.interrupts n) :: during) := h.reading_eq
  have hcount : m = n + UInt64.ofNat (interruptsIn during) :=
    calc m = handled (handled start pre) during := by rw [hsecond, handled_append, handled_said]
      _ = n + UInt64.ofNat (interruptsIn during) := by rw [← hfirst, handled_eq]
  have hzero : UInt64.ofNat (interruptsIn during) = 0 ↔ interruptsIn during = 0 := by
    rw [← UInt64.toNat_inj, UInt64.toNat_ofNat_of_lt' hfew]
    rfl
  rw [hcount, ne_eq, UInt64.add_eq_left, hzero, Nat.pos_iff_ne_zero]

end

/-! ## Reports -/

namespace Exchange

/-- Whether the exchange is the record of an interrupted wait. -/
def reports : Exchange → Bool
  | log record => "interrupted while waiting for ".toList.isPrefixOf record.text.toList
  | _ => false

def reading? : Exchange → Option UInt64
  | interrupts n => some n
  | _ => none

/-- Whether the exchange has nothing to do with a wait. -/
def isAside (x : Exchange) : Bool := x.command?.isNone && x.reading?.isNone && !x.reports

/-- A record that starts otherwise is none of a wait. -/
theorem isAside_log {record : Log.Record} (h : record.text.toList.head? ≠ some 'i') :
    (log record).isAside = true := by
  have hstart : "interrupted while waiting for ".toList =
      'i' :: "nterrupted while waiting for ".toList := by simp
  have hfalse : (log record).reports = false := by
    rw [Exchange.reports, hstart]
    cases htext : record.text.toList with
    | nil => rfl
    | cons c cs =>
      have hc : c ≠ 'i' := by simpa [htext] using h
      rw [List.isPrefixOf_cons_cons, beq_false_of_ne hc.symm, Bool.false_and]
  simp [Exchange.isAside, hfalse, Exchange.command?, Exchange.reading?]

end Exchange

/-- The readings of the count. -/
def readings (trace : List Exchange) : List UInt64 := trace.filterMap Exchange.reading?

/-- The records of interrupted waits. -/
def reports (trace : List Exchange) : List Exchange := trace.filter Exchange.reports

/-- Nothing is said of a wait. -/
def Aside (trace : List Exchange) : Prop := ∀ x ∈ trace, x.isAside = true

section
variable {trace trace₁ trace₂ : List Exchange} {x : Exchange}

@[simp] theorem readings_append : readings (trace₁ ++ trace₂) = readings trace₁ ++ readings trace₂ :=
  List.filterMap_append

@[simp] theorem reports_append : reports (trace₁ ++ trace₂) = reports trace₁ ++ reports trace₂ :=
  List.filter_append ..

@[simp] theorem aside_nil : Aside [] := List.forall_mem_nil _

@[simp] theorem aside_cons : Aside (x :: trace) ↔ x.isAside = true ∧ Aside trace :=
  List.forall_mem_cons

@[simp] theorem aside_append : Aside (trace₁ ++ trace₂) ↔ Aside trace₁ ∧ Aside trace₂ :=
  List.forall_mem_append

namespace Aside

theorem append (h₁ : Aside trace₁) (h₂ : Aside trace₂) : Aside (trace₁ ++ trace₂) :=
  aside_append.mpr ⟨h₁, h₂⟩

theorem launches_eq_nil (h : Aside trace) : launches trace = [] :=
  List.filterMap_eq_nil_iff.mpr fun x hx => by
    have hx := h x hx
    simp only [Exchange.isAside, Bool.and_eq_true, Option.isNone_iff_eq_none] at hx
    exact hx.1.1

theorem readings_eq_nil (h : Aside trace) : readings trace = [] :=
  List.filterMap_eq_nil_iff.mpr fun x hx => by
    have hx := h x hx
    simp only [Exchange.isAside, Bool.and_eq_true, Option.isNone_iff_eq_none] at hx
    exact hx.1.2

theorem reports_eq_nil (h : Aside trace) : reports trace = [] :=
  List.filter_eq_nil_iff.mpr fun x hx => by
    have hx := h x hx
    simp only [Exchange.isAside, Bool.and_eq_true, Bool.not_eq_true'] at hx
    simp [hx.2]

end Aside
end

section
variable {trace : List Exchange}

theorem Writing.aside {texts : List String} {result : Except IoError Unit}
    (h : Writing texts trace result) : Aside trace := by
  induction h with
  | done => exact aside_nil
  | refused => exact aside_cons.mpr ⟨rfl, aside_nil⟩
  | accepted _ ih => exact aside_cons.mpr ⟨rfl, ih⟩

theorem Builtin.Performing.aside {user : String} {argv : Argv} {b : Builtin}
    {result : Except IoError Unit} (h : b.Performing user argv trace result) : Aside trace := by
  cases h with
  | moved => exact aside_cons.mpr ⟨rfl, aside_nil⟩
  | unmoved _ hwriting => exact aside_cons.mpr ⟨rfl, hwriting.aside⟩
  | told _ hwriting => exact hwriting.aside

end

namespace Shell

variable {shell : Shell} {line : String} {plan : Plan} {command : Command}
  {trace pre post : List Exchange} {flow : Flow} {item : Item}

theorem reports_interruptionNoted (command : Command) :
    reports [interruptionNoted command] = [interruptionNoted command] := by
  have hreports : (interruptionNoted command).reports = true := by
    rw [interruptionNoted, Exchange.reports, List.isPrefixOf_iff_prefix]
    change _ <+: ("interrupted while waiting for " ++ command.shown).toList
    rw [String.toList_append]
    exact List.prefix_append _ _
  simp [reports, hreports]

/-! ## The waits of a step -/

theorem Showing.aside {result : Except IoError Unit} (h : Showing trace result) : Aside trace := by
  cases h <;> simp [Exchange.isAside, Exchange.command?, Exchange.reading?, Exchange.reports]

theorem Planned.aside {outcome : Except PlanError Plan} (h : shell.Planned line trace outcome) :
    Aside trace := by
  have hstages : (stagesNoted line).isAside = true := Exchange.isAside_log (by simp [toString])
  cases h with
  | tooLong => exact aside_nil
  | tooMany | silent => exact aside_cons.mpr ⟨hstages, aside_nil⟩
  | @builtin b _ _ _ _ _ hperforms =>
    have hnoted : b.noted.isAside = true := Exchange.isAside_log (by simp [toString])
    exact aside_cons.mpr ⟨hstages, aside_cons.mpr ⟨hnoted, hperforms.aside⟩⟩

/-- How a launch went, as the log or the user is told. -/
def tellings : Except LaunchError (List Child) → List Exchange
  | .ok children => children.map childNoted
  | .error e => [.write (launchFailed e) (.ok ())]

/-- What is said of a wait that is over, by the counts before and after it. -/
def interruption (command : Command) (first second : UInt64) : List Exchange :=
  if second != first then [interruptionNoted command] else []

theorem tellings_aside (answer : Except LaunchError (List Child)) : Aside (tellings answer) := by
  cases answer with
  | error e => exact aside_cons.mpr ⟨rfl, aside_nil⟩
  | ok children =>
    exact List.forall_mem_map.mpr fun child _ => Exchange.isAside_log (by simp [toString])

theorem tellings_silent (answer : Except LaunchError (List Child)) : Silent (tellings answer) := by
  cases answer with
  | error e => exact silent_cons.mpr ⟨rfl, silent_nil⟩
  | ok children => exact List.forall_mem_map.mpr fun _ _ => rfl

theorem interruption_silent (command : Command) (first second : UInt64) :
    Silent (interruption command first second) :=
  forall_mem_interruption command (fun _ => rfl) first second

/-- What is said of a wait that is over is a record of it. -/
theorem of_interruption (command : Command) (first second : UInt64) :
    readings (interruption command first second) = [] ∧
      reports (interruption command first second) = interruption command first second := by
  rw [interruption]
  split
  · exact ⟨rfl, reports_interruptionNoted command⟩
  · exact ⟨rfl, rfl⟩

/-- The interrupts between two readings are said if there are any. -/
theorem interruption_of_counted {start n m : UInt64} {pre during post : List Event}
    (command : Command)
    (h : Counted start (pre ++ .said (.interrupts n) :: (during ++ .said (.interrupts m) :: post)))
    (hfew : interruptsIn during < 2 ^ 64) : interruption command n m =
      if interruptsIn during = 0 then [] else [interruptionNoted command] := by
  have hne : m ≠ n ↔ 0 < interruptsIn during := h.ne_iff hfew
  rw [interruption]
  by_cases hzero : interruptsIn during = 0
  · have hsame : m = n := not_not.mp fun hchanged => (hne.mp hchanged).ne' hzero
    simp [hsame, hzero]
  · have hchanged : m ≠ n := hne.mpr (Nat.pos_of_ne_zero hzero)
    simp [hchanged, hzero]

/-- What a part of a step says of waits, and how the part ends. It has no wait, or it ends with a
launch whose failure cannot be told, or it ends with a wait: from a reading of the count over the
launch and the telling how that went to another reading. All else is aside. -/
inductive Waits {α : Type} : List Exchange → Except IoError α → Prop
  | idle {said result} : Aside said → Waits said result
  | untold {asked command first e e'} : Aside asked →
    Waits (asked ++ [.flush (.ok ()), .interrupts first, .launch command (.error e),
      .write (launchFailed e) (.error e')]) (.error e')
  | told {asked command first answer second value} : Aside asked →
    Waits (asked ++ .flush (.ok ()) :: .interrupts first :: .launch command answer ::
      (tellings answer ++ .interrupts second :: interruption command first second)) (.ok value)

theorem Waits.after {α : Type} {result : Except IoError α} (h : Waits trace result)
    (hpre : Aside pre) : Waits (pre ++ trace) result := by
  cases h with
  | idle htrace => exact .idle (aside_append.mpr ⟨hpre, htrace⟩)
  | untold hasked =>
    rw [← List.append_assoc]
    exact .untold (aside_append.mpr ⟨hpre, hasked⟩)
  | told hasked =>
    rw [← List.append_assoc]
    exact .told (aside_append.mpr ⟨hpre, hasked⟩)

theorem CarryingOut.waits {result : Except IoError Flow} (h : CarryingOut plan trace result) :
    Waits trace result := by
  have hnoted : Aside [planNoted plan] :=
    aside_cons.mpr ⟨Exchange.isAside_log (by simp [toString]), aside_nil⟩
  cases h with
  | unflushed | nothing | exit =>
    exact .idle (hnoted.append (aside_cons.mpr ⟨rfl, aside_nil⟩))
  | launch hrunning =>
    cases hrunning with
    | untold => exact .untold hnoted
    | @failed first e second => exact @Waits.told _ _ _ first (.error e) second _ hnoted
    | @finished first children second => exact @Waits.told _ _ _ first (.ok children) second _ hnoted

theorem Acting.waits {result : Except IoError Flow} (h : Acting shell line trace result) :
    Waits trace result := by
  cases h with
  | blank => exact .idle aside_nil
  | @refused told e answer _ hplanning =>
    have hrefused : (lineRefused e).isAside = true := Exchange.isAside_log (by simp [toString])
    exact .idle (aside_append.mpr
      ⟨hplanning.planned.aside, aside_cons.mpr ⟨hrefused, aside_cons.mpr ⟨rfl, aside_nil⟩⟩⟩)
  | planned _ hplanning hcarried => exact hcarried.waits.after hplanning.planned.aside

theorem Responding.waits {result : Except IoError Flow} (h : Responding shell item trace result) :
    Waits trace result := by
  cases h with
  | line hacting => exact hacting.waits
  | interrupted => exact .idle (aside_cons.mpr ⟨rfl, aside_nil⟩)
  | endOfInput => exact .idle (aside_cons.mpr ⟨Exchange.isAside_log (by decide), aside_nil⟩)
  | @failed e =>
    have hfirst : e.message.toList.head? = some 'r' := by
      unfold ReadError.message
      simp
    have htext : e.message.toList.head? ≠ some 'i' := by
      rw [hfirst]
      decide
    exact .idle (aside_cons.mpr ⟨@Exchange.isAside_log ⟨_, _, _⟩ htext, aside_nil⟩)

theorem Trying.waits {result : Except IoError Flow} (h : Trying shell trace result) :
    Waits trace result := by
  cases h with
  | unshown hshowing => exact .idle hshowing.aside
  | @read shown item rest _ hshowing hresponding =>
    have hpre : Aside (shown ++ [.readLine prompt item]) :=
      aside_append.mpr ⟨hshowing.aside, aside_cons.mpr ⟨rfl, aside_nil⟩⟩
    simpa using hresponding.waits.after hpre

/-! ## The events of a step -/

/-- A wait for the command that a line calls for, in the events of a step. The count is read once
the line has been read and the output is flushed; then the command is launched; then it is told how
that went; then the count is read again, and the step is over but for what there is to say of the
wait. Signals may come at any point. -/
structure Wait (line : String) (command : Command) where
  before : List Event
  first : UInt64
  /-- The signals that come while the launcher is at work. -/
  launching : List Event
  answer : Except LaunchError (List Child)
  /-- How the launch went, and the signals that come while that is told. -/
  telling : List Event
  second : UInt64
  after : List Event
  said_before : ∃ asked, Aside asked ∧ said before = asked ++ [.flush (.ok ())]
  reads_before : reads (said before) = [.ok (.line line)]
  said_launching : said launching = []
  said_telling : said telling = tellings answer
  said_after : said after = interruption command first second

namespace Wait

variable (wait : Wait line command)

/-- The events of the step. -/
def events : List Event :=
  wait.before ++ .said (.interrupts wait.first) :: (wait.launching ++
    .said (.launch command wait.answer) :: (wait.telling ++
      .said (.interrupts wait.second) :: wait.after))

/-- How many interrupts come in the wait: during the launch, and while it is told how that went. -/
def interrupts : Nat := interruptsIn wait.launching + interruptsIn wait.telling

theorem interruptsIn_between :
    interruptsIn (wait.launching ++ .said (.launch command wait.answer) :: wait.telling) =
      wait.interrupts := by
  simp [interrupts, interruptsIn, List.countP_append, Event.isInterrupt]

theorem aside_before : Aside (said wait.before) := by
  obtain ⟨asked, hasked, hsaid⟩ := wait.said_before
  rw [hsaid]
  exact aside_append.mpr ⟨hasked, aside_cons.mpr ⟨rfl, aside_nil⟩⟩

theorem said_events : said wait.events = said wait.before ++ ([.interrupts wait.first,
    .launch command wait.answer] ++ (tellings wait.answer ++ ([.interrupts wait.second] ++
      interruption command wait.first wait.second))) := by
  simp [events, wait.said_launching, wait.said_telling, wait.said_after]

theorem launches_events : launches (said wait.events) = [command] := by
  have hafter := interruption_silent command wait.first wait.second
  rw [said_events]
  simp only [launches_append, wait.aside_before.launches_eq_nil,
    (tellings_aside wait.answer).launches_eq_nil, hafter.launches_eq_nil]
  rfl

theorem readings_events : readings (said wait.events) = [wait.first, wait.second] := by
  obtain ⟨hafter, -⟩ := of_interruption command wait.first wait.second
  rw [said_events]
  simp only [readings_append, wait.aside_before.readings_eq_nil,
    (tellings_aside wait.answer).readings_eq_nil, hafter]
  rfl

theorem reports_events :
    reports (said wait.events) = interruption command wait.first wait.second := by
  obtain ⟨-, hafter⟩ := of_interruption command wait.first wait.second
  rw [said_events]
  simp only [reports_append, wait.aside_before.reports_eq_nil,
    (tellings_aside wait.answer).reports_eq_nil, hafter]
  rfl

/-- Events in which that is said are those of a wait. -/
theorem exists_of_said {step : List Event} {asked : List Exchange} {first second : UInt64}
    {answer : Except LaunchError (List Child)} (hasked : Aside asked)
    (hreads : reads (said step) = [.ok (.line line)])
    (h : said step = asked ++ .flush (.ok ()) :: .interrupts first :: .launch command answer ::
      (tellings answer ++ .interrupts second :: interruption command first second)) :
    ∃ wait : Wait line command, step = wait.events := by
  have hparts : said step = (asked ++ [.flush (.ok ())]) ++ .interrupts first ::
      ([] ++ .launch command answer ::
        (tellings answer ++ .interrupts second :: interruption command first second)) := by
    simp [h]
  obtain ⟨before, rest, rfl, hbefore, hrest⟩ := exists_of_said_eq_append_cons hparts
  -- the line is read before the wait, since nothing is read in it
  have hnone : reads (.interrupts first :: said rest) = [] := by
    have htold : Silent (tellings answer ++ .interrupts second ::
        interruption command first second) := silent_append.mpr
      ⟨tellings_silent answer, silent_cons.mpr ⟨rfl, interruption_silent command first second⟩⟩
    rw [hrest]
    exact htold.reads_eq_nil
  have hline : reads (said before) = [.ok (.line line)] := by
    rw [said_append, said_cons, reads_append, hnone, List.append_nil] at hreads
    exact hreads
  obtain ⟨launching, rest, rfl, hlaunching, hrest⟩ := exists_of_said_eq_append_cons hrest
  obtain ⟨telling, after, rfl, htelling, hafter⟩ := exists_of_said_eq_append_cons hrest
  exact ⟨⟨before, first, launching, answer, telling, second, after, ⟨asked, hasked, hbefore⟩, hline,
    hlaunching, htelling, hafter⟩, rfl⟩

end Wait

/-- A step launches nothing, or it launches a command whose failure the user could not be told, or
it waits for the command. -/
theorem Stepping.cases_wait {step : List Event} (h : Stepping shell (said step) flow) :
    (launches (said step) = [] ∧ reports (said step) = []) ∨
      ∃ line command, reads (said step) = [.ok (.line line)] ∧
        shell.called line = .ok (.launch command) ∧ launches (said step) = [command] ∧
        ((∃ e e', [.launch command (.error e), .write (launchFailed e) (.error e')] <:+: said step ∧
            reports (said step) = []) ∨
          ∃ wait : Wait line command, step = wait.events) := by
  have hcalled : ∀ command ∈ launches (said step), ∃ line, reads (said step) = [.ok (.line line)] ∧
      shell.called line = .ok (.launch command) := fun _ => h.called
  generalize hsaid : said step = trace at h hcalled
  cases h with
  | @went told flow htrying =>
    cases htrying.waits with
    | idle haside => exact .inl ⟨haside.launches_eq_nil, haside.reports_eq_nil⟩
    | @told asked command first answer second _ hasked =>
      obtain ⟨line, hreads, hplan⟩ := hcalled command (by simp [launches, Exchange.command?])
      obtain ⟨wait, rfl⟩ := Wait.exists_of_said hasked (hsaid ▸ hreads) hsaid
      refine .inr ⟨line, command, hreads, hplan, ?_, .inr ⟨wait, rfl⟩⟩
      rw [← hsaid]
      exact wait.launches_events
  | @stopped told e htrying =>
    have hfailed : Aside [outputFailed e] :=
      aside_cons.mpr ⟨Exchange.isAside_log (by simp [toString]), aside_nil⟩
    generalize hresult : (.error e : Except IoError Flow) = result at htrying
    cases htrying.waits with
    | idle haside =>
      have haside := haside.append hfailed
      exact .inl ⟨haside.launches_eq_nil, haside.reports_eq_nil⟩
    | told => cases hresult
    | @untold asked command first e e' hasked =>
      obtain ⟨line, hreads, hplan⟩ := hcalled command (by simp [launches, Exchange.command?])
      refine .inr ⟨line, command, hreads, hplan, ?_, .inl ⟨e, e', ?_, ?_⟩⟩
      · simp only [launches_append, hasked.launches_eq_nil, hfailed.launches_eq_nil]
        rfl
      · exact ⟨asked ++ [.flush (.ok ()), .interrupts first], [_], by simp; rfl⟩
      · simp only [reports_append, hasked.reports_eq_nil, hfailed.reports_eq_nil]
        rfl

/-! ## Runs -/

/-- The events of a run fall into those of its steps and what happens after the last of them. -/
theorem exists_steps {parts : List (List Exchange)} {events : List Event}
    (h : said events = parts.flatten) :
    ∃ (steps : List (List Event)) (idle : List Event),
      events = steps.flatten ++ idle ∧ said idle = [] ∧ steps.map said = parts := by
  induction parts generalizing events with
  | nil => exact ⟨[], events, rfl, h, rfl⟩
  | cons part parts ih =>
    obtain ⟨step, rest, rfl, rfl, hrest⟩ := said_eq_append_iff.mp h
    obtain ⟨steps, idle, rfl, hidle, rfl⟩ := ih hrest
    exact ⟨step :: steps, idle, by simp, hidle, rfl⟩

/-- A run in whose course the handler gets signals at any points, whatever its count was at the
start. A step that launches nothing reports no interrupted wait. A step that launches a command is
told to do so by the line that it reads. If the launch fails and the user cannot be told, nothing is
reported. Otherwise the step waits for the command: the launch and the telling how it went, between
two readings of the count, are all of the wait. It is reported once if there was an interrupt in it
and not at all if there was none. No other signal and no interrupt outside the wait makes a
difference. -/
theorem steps_interruptions {turns : Nat} {start : UInt64} {events : List Event}
    (h : (shell.steps turns).Holds (said events) flow) (hcounted : Counted start events) :
    ∃ (steps : List (List Event)) (idle : List Event), events = steps.flatten ++ idle ∧ said idle = [] ∧
      InSteps shell (steps.map said) flow ∧ ∀ step ∈ steps,
        (launches (said step) = [] ∧ reports (said step) = []) ∨
        ∃ line command, reads (said step) = [.ok (.line line)] ∧
          shell.called line = .ok (.launch command) ∧ launches (said step) = [command] ∧
          ((∃ e e', [.launch command (.error e), .write (launchFailed e) (.error e')] <:+: said step ∧
              reports (said step) = []) ∨
            ∃ wait : Wait line command, step = wait.events ∧
              readings (said step) = [wait.first, wait.second] ∧
              (wait.interrupts < 2 ^ 64 → reports (said step) =
                if wait.interrupts = 0 then [] else [interruptionNoted command])) := by
  obtain ⟨parts, hparts, htrace, -⟩ := holds_steps h
  obtain ⟨steps, idle, rfl, hidle, rfl⟩ := exists_steps htrace
  refine ⟨steps, idle, rfl, hidle, hparts, fun step hstep => ?_⟩
  obtain ⟨value, hstepping⟩ := hparts.stepping _ (List.mem_map_of_mem hstep)
  refine hstepping.cases_wait.imp_right ?_
  rintro ⟨line, command, hreads, hcalled, hlaunches, hcases⟩
  refine ⟨line, command, hreads, hcalled, hlaunches, hcases.imp_right ?_⟩
  rintro ⟨wait, rfl⟩
  refine ⟨wait, rfl, wait.readings_events, fun hfew => ?_⟩
  -- The readings show the count of the whole run, of which the step is a part.
  obtain ⟨earlier, later, rfl⟩ := List.append_of_mem hstep
  have hplace : Counted start ((earlier.flatten ++ wait.before) ++ .said (.interrupts wait.first) ::
      ((wait.launching ++ .said (.launch command wait.answer) :: wait.telling) ++
        .said (.interrupts wait.second) :: (wait.after ++ later.flatten ++ idle))) := by
    simpa [Wait.events] using hcounted
  have hcount := wait.interruptsIn_between
  rw [← hcount] at hfew ⊢
  rw [wait.reports_events, interruption_of_counted command hplace hfew]

/-- A line that is launched: what is left of the step is the launch. -/
theorem holds_launching (h : (launch (.single ⟨["a"]⟩)).run.Holds trace (.ok ())) :
    (({} : Shell).steps 1).Holds
      ([.currentDir (.ok "/"), .write "\nDir: /\n" (.ok ()), .flush (.ok ()),
        .readLine prompt (.ok (.line "a")), .log ⟨.interpreter, .debug, "piped: false"⟩,
        planNoted (.launch (.single ⟨["a"]⟩)), .flush (.ok ())] ++ trace) .continue := by
  have htokens : tokenize ({} : Shell).limits.maxArgs (.ofLine "a") = .ok (⟨["a"]⟩, none) := by cbv
  have hplan : (({} : Shell).plan "a").run = .log ⟨.interpreter, .debug, "piped: false"⟩
      (.done (.ok (.launch (.single ⟨["a"]⟩)))) := by
    simp only [plan, htokens]
    rfl
  have hcarried : (carryOut (.launch (.single ⟨["a"]⟩))).run.Holds
      (planNoted (.launch (.single ⟨["a"]⟩)) :: .flush (.ok ()) :: trace) (.ok .continue) :=
    .step .log <| .step (.flush (.ok ())) <| Interaction.holds_run_bind_pure.mpr ⟨_, h, rfl⟩
  have hline : (({} : Shell).executeLine "a").run.Holds (.log ⟨.interpreter, .debug, "piped: false"⟩ ::
      planNoted (.launch (.single ⟨["a"]⟩)) :: .flush (.ok ()) :: trace) (.ok .continue) := by
    rw [executeLine_run rfl, hplan]
    exact .step .log hcarried
  exact .step (.currentDir (.ok "/")) <| .step (.write (.ok ())) <| .step (.flush (.ok ())) <|
    .step (.readLine (.ok (.line "a"))) <| (hline.bind _).bind _

/-- The launch has no children, and the count has changed in the meantime. -/
theorem holds_launched : (({} : Shell).steps 1).Holds
    [.currentDir (.ok "/"), .write "\nDir: /\n" (.ok ()), .flush (.ok ()),
      .readLine prompt (.ok (.line "a")), .log ⟨.interpreter, .debug, "piped: false"⟩,
      planNoted (.launch (.single ⟨["a"]⟩)), .flush (.ok ()), .interrupts 0,
      .launch (.single ⟨["a"]⟩) (.ok []), .interrupts 1, interruptionNoted (.single ⟨["a"]⟩)]
    .continue :=
  holds_launching <| .step (.interrupts 0) <| .step (.launch (.ok [])) <| .step (.interrupts 1) <|
    .step .log .refl

/-- The count is at its last value when an interrupt at the prompt takes it round to zero. While the
line is waited for, one of two signals is an interrupt. -/
theorem steps_interruptions_wrapped :
    let command : Command := .single ⟨["a"]⟩
    let events : List Event := [.said (.currentDir (.ok "/")), .said (.write "\nDir: /\n" (.ok ())),
      .said (.flush (.ok ())), .signal 2, .said (.readLine prompt (.ok (.line "a"))),
      .said (.log ⟨.interpreter, .debug, "piped: false"⟩), .said (planNoted (.launch command)),
      .said (.flush (.ok ())), .said (.interrupts 0), .signal 15, .signal 2,
      .said (.launch command (.ok [])), .said (.interrupts 1), .said (interruptionNoted command)]
    (({} : Shell).steps 1).Holds (said events) .continue ∧ Counted 0xFFFFFFFFFFFFFFFF events ∧
      ∃ step, step <:+: events ∧ ∃ wait : Wait "a" command, step = wait.events ∧
        readings (said step) = [wait.first, wait.second] ∧
        (wait.interrupts < 2 ^ 64 → reports (said step) =
          if wait.interrupts = 0 then [] else [interruptionNoted command]) := by
  intro command events
  have hsaid : (({} : Shell).steps 1).Holds (said events) .continue := holds_launched
  have hcounted : Counted 0xFFFFFFFFFFFFFFFF events := by
    simp [events, Counted, Event.count, Signal.handle, Signal.interrupt, planNoted,
      interruptionNoted]
  obtain ⟨steps, idle, hevents, hidle, -, hsteps⟩ := steps_interruptions hsaid hcounted
  have hflat : said events = (steps.map said).flatten := by
    rw [hevents, said_append, hidle, List.append_nil]
    exact List.filterMap_flatten
  have hmem : .launch command (.ok []) ∈ said events := by simp [events]
  obtain ⟨told, htold, hlaunch⟩ := List.mem_flatten.mp (hflat ▸ hmem)
  obtain ⟨step, hstep, rfl⟩ := List.mem_map.mp htold
  have hlaunched : command ∈ launches (said step) := List.mem_filterMap.mpr ⟨_, hlaunch, rfl⟩
  have hinfix : step <:+: events :=
    hevents ▸ (List.infix_of_mem_flatten hstep).trans (List.prefix_append _ _).isInfix
  rcases hsteps step hstep with ⟨hnone, -⟩ |
    ⟨line, command', hreads, -, hlaunches, ⟨e, e', huntold, -⟩ | ⟨wait, hwait⟩⟩
  · simp [hnone] at hlaunched
  · have hfailed : .launch command' (.error e) ∈ said events :=
      hflat ▸ List.mem_flatten.mpr ⟨_, htold, huntold.subset (.head _)⟩
    simp [events, planNoted, interruptionNoted] at hfailed
  · obtain rfl : command = command' := by simpa [hlaunches] using hlaunched
    have hread : (.ok (.line line) : Item) ∈ reads (said step) := hreads ▸ List.mem_singleton_self _
    obtain ⟨x, hx, hitem⟩ := List.mem_filterMap.mp hread
    have hread : (.ok (.line line) : Item) ∈ reads (said events) :=
      List.mem_filterMap.mpr ⟨x, hflat ▸ List.mem_flatten.mpr ⟨_, htold, hx⟩, hitem⟩
    obtain rfl : "a" = line := by
      simpa [events, reads, Exchange.item?, planNoted, interruptionNoted] using hread
    exact ⟨hsaid, hcounted, step, hinfix, wait, hwait⟩

/-- No interrupt comes before or during a launch that fails, but one comes while the user is told of
it: that one is reported. And where the log shows no more than warnings, an interrupt during a
launch is not shown by it. -/
theorem late_interruption_reported :
    let command : Command := .single ⟨["a"]⟩
    let e : LaunchError := .syscall .tryAgain
    let warnings : Log.Filter := { directives := [⟨none, some .warn⟩] }
    let before : List Event := [.said (.currentDir (.ok "/")), .said (.write "\nDir: /\n" (.ok ())),
      .said (.flush (.ok ())), .said (.readLine prompt (.ok (.line "a"))),
      .said (.log ⟨.interpreter, .debug, "piped: false"⟩), .said (planNoted (.launch command)),
      .said (.flush (.ok ()))]
    let failing : List Event := [.said (.interrupts 0), .said (.launch command (.error e))]
    let telling : List Event := [.signal 2, .said (.write (launchFailed e) (.ok ())),
      .said (.interrupts 1), .said (interruptionNoted command)]
    let waiting : List Event := [.said (.interrupts 0), .signal 2, .said (.launch command (.ok [])),
      .said (.interrupts 1), .said (interruptionNoted command)]
    ((({} : Shell).steps 1).Holds (said (before ++ failing ++ telling)) .continue ∧
      Counted 0 (before ++ failing ++ telling) ∧ interruptsIn (before ++ failing) = 0 ∧
      reports (said (before ++ failing ++ telling)) = [interruptionNoted command]) ∧
    (({} : Shell).steps 1).Holds (said (before ++ waiting)) .continue ∧
      Counted 0 (before ++ waiting) ∧
      ∀ record, .log record ∈ said (before ++ waiting) → warnings.shows record = false := by
  intro command e warnings before failing telling waiting
  have hlate : (({} : Shell).steps 1).Holds (said (before ++ failing ++ telling)) .continue :=
    holds_launching <| .step (.interrupts 0) <| .step (.launch (.error e)) <|
      .step (.write (.ok ())) <| .step (.interrupts 1) <| .step .log .refl
  have hreports : reports (said (before ++ failing ++ telling)) = [interruptionNoted command] := by
    have hbefore : Aside (said before) := by
      have hstages : Exchange.isAside (.log ⟨.interpreter, .debug, "piped: false"⟩) = true :=
        Exchange.isAside_log (by decide)
      have hplan : (planNoted (.launch command)).isAside = true :=
        Exchange.isAside_log (by simp [toString])
      simp only [before, said_cons, said_nil, aside_cons, hstages, hplan]
      exact ⟨rfl, rfl, rfl, rfl, trivial, trivial, rfl, aside_nil⟩
    rw [said_append, said_append, reports_append, reports_append, hbefore.reports_eq_nil]
    exact reports_interruptionNoted command
  refine ⟨⟨hlate, ?_, rfl, hreports⟩, holds_launched, ?_, ?_⟩
  · simp [before, failing, telling, Counted, Event.count, Signal.handle, Signal.interrupt,
      planNoted, interruptionNoted]
  · simp [before, waiting, Counted, Event.count, Signal.handle, Signal.interrupt,
      planNoted, interruptionNoted]
  · intro record hrecord
    simp only [before, waiting, said_append, said_cons, said_signal, said_nil, planNoted,
      interruptionNoted, List.mem_append, List.mem_cons, List.not_mem_nil, or_false, false_or,
      reduceCtorEq, Exchange.log.injEq] at hrecord
    rcases hrecord with (rfl | rfl) | rfl <;> rfl

end Shell
end PipeShell
