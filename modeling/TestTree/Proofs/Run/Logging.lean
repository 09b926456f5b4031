/-
This file proves that the log of a run tells the same story as its report.

With the standard boundary a run holds a guard, so each panic of its actions is absorbed and leaves
a line in the log. Everything else that is logged while the groups are executed can be read off the
report: the spans of the groups in the order of the walk, the entries of the named ones, and a line
for each outcome that is worth one. The panics that were raised are the only thing in the log that
is not in the report, and they are counted for each test along the plain course of the suite. The
log is meant here as it is collected, with the levels, the messages and the fields of its lines.

The proof follows an execution along that course. Each part of it adds its lines to the log of every
process in which a guard is live, and leaves guards and spans as they are. What an action registers
is logged too, and is left out here.
-/

import TestTree.Proofs.Panic.Guards
import TestTree.Proofs.Run.Composition
import TestTree.Proofs.Run.Context
import TestTree.Proofs.Run.Guarding
import TestTree.Proofs.Run.Tracking
import TestTree.Proofs.Run.Conclusion

namespace TestTree

/-! ### The log of a report -/

/-- For each test of a group and of the groups below it, how often the hook was called for a panic
of its calls. -/
structure Alarms where
  own : List Nat
  children : List Alarms

namespace LogLine

/-- The span of a group is created with its name and its depth. The root has an empty name. -/
def created (name : Option String) (depth : Nat) : LogLine :=
  .span .debug "group" [("name", .text (name.getD "")), ("depth", .number depth)]

/-- The entry of a group with a name is logged with the number of its own tests. -/
def entered (chain : List String) (name : Option String) (tests : Nat) : List LogLine :=
  match name with
  | none => []
  | some _ => [.record .debug "entering group" [("tests", .number tests)] chain]

/-- A number of panics that were absorbed within a chain. -/
def absorbed (chain : List String) (times : Nat) : List LogLine :=
  List.replicate times (.record .debug "test panicked" [] chain)

/-- A test that failed is logged with its failure. A test that passed is worth a warning if its
teardown failed, and nothing otherwise. -/
def settled (chain : List String) (test : String) : Outcome → List LogLine
  | ⟨.failed failure, _⟩ =>
    [.record .debug "test failed" [("test", .text test), ("failure", .text failure.display)] chain]
  | ⟨.passed, some teardown⟩ =>
    [.record .warn "after each hook failed for a passing test"
      [("test", .text test), ("teardown", .text teardown.display)] chain]
  | ⟨.passed, none⟩ => []

/-- The end of a run is logged with its counts. -/
def finished (chain : List String) (total passed failed : Nat) : LogLine :=
  .record .debug "run finished"
    [("total", .number total), ("passed", .number passed), ("failed", .number failed)] chain

theorem absorbed_append (chain : List String) (earlier later : Nat) :
    absorbed chain earlier ++ absorbed chain later = absorbed chain (earlier + later) :=
  List.replicate_append_replicate

end LogLine

/-- What is logged about the tests of a group: the panics of each test, and its outcome. -/
def Outcome.logAll (chain : List String) : List (String × Outcome) → List Nat → List LogLine
  | [], _ => []
  | (test, outcome) :: rest, alarms =>
    LogLine.absorbed chain (alarms.headD 0) ++
      (LogLine.settled chain test outcome ++ logAll chain rest alarms.tail)

namespace ReportNode

mutual

/-- The log that belongs to the report of a group, within some spans and at some depth. -/
def log (outer : List String) (depth : Nat) : ReportNode → Alarms → List LogLine
  | ⟨name, outcomes, children, _⟩, alarms =>
    .created name depth :: (LogLine.entered (outer ++ [name.getD ""]) name outcomes.length ++
      (Outcome.logAll (outer ++ [name.getD ""]) outcomes alarms.own ++
        logAll (outer ++ [name.getD ""]) (depth + 1) children alarms.children))

/-- The log that belongs to the reports of several groups. -/
def logAll (outer : List String) (depth : Nat) : List ReportNode → List Alarms → List LogLine
  | [], _ => []
  | report :: rest, alarms =>
    report.log outer depth (alarms.headD ⟨[], []⟩) ++ logAll outer depth rest alarms.tail

end

end ReportNode

/-! ### Counting lines -/

/-- The outcomes that failed are those that did not pass. -/
theorem ReportNode.countP_isFailed (report : ReportNode) :
    (report.outcomesBelow.countP fun entry => entry.2.isFailed) =
      report.outcomesBelow.length - report.passedCount := by
  have each : (fun entry : String × Outcome => entry.2.isFailed) =
      fun entry => decide ¬entry.2.isPassed = true := by
    funext entry
    rw [Outcome.isFailed, Status.isFailed_eq_not_isPassed, Outcome.isPassed]
    cases entry.2.status.isPassed <;> rfl
  rw [each]
  have both := report.outcomesBelow.length_eq_countP_add_countP fun entry => entry.2.isPassed
  unfold passedCount
  omega

namespace LogLine

/-- Whether a line is a warning. -/
def isWarning : LogLine → Bool
  | .span level .. => level = .warn
  | .record level .. => level = .warn

/-- Whether a line says that a test failed. -/
def isFailure : LogLine → Bool
  | .span .. => false
  | .record _ message .. => message = "test failed"

/-- Of all that the log of a report can hold, the lines that count belong to the outcomes that are
worth one. -/
structure Marks (counts : LogLine → Bool) (worth : Outcome → Bool) : Prop where
  created : ∀ name depth, counts (.created name depth) = false
  entered : ∀ chain name tests, (entered chain name tests).countP counts = 0
  absorbed : ∀ chain, counts (.record .debug "test panicked" [] chain) = false
  settled : ∀ chain test outcome,
    (settled chain test outcome).countP counts = if worth outcome then 1 else 0

theorem marks_isWarning :
    Marks isWarning fun outcome => outcome.isPassed && outcome.teardown.isSome where
  created _ _ := rfl
  entered _ name _ := by cases name <;> rfl
  absorbed _ := rfl
  settled chain test outcome := by
    obtain ⟨status, teardown⟩ := outcome
    cases status <;> cases teardown <;> rfl

theorem marks_isFailure : Marks isFailure Outcome.isFailed where
  created _ _ := rfl
  entered _ name _ := by cases name <;> rfl
  absorbed _ := rfl
  settled chain test outcome := by
    obtain ⟨status, teardown⟩ := outcome
    cases status <;> cases teardown <;> rfl

variable {counts : LogLine → Bool} {worth : Outcome → Bool}

theorem Marks.countP_outcomes (marks : Marks counts worth) (chain : List String)
    (outcomes : List (String × Outcome)) (alarms : List Nat) :
    (Outcome.logAll chain outcomes alarms).countP counts =
      outcomes.countP fun entry => worth entry.2 := by
  induction outcomes generalizing alarms with
  | nil => rfl
  | cons entry rest inductionHypothesis =>
    rw [Outcome.logAll, List.countP_append, List.countP_append, LogLine.absorbed,
      List.countP_replicate, marks.absorbed, if_neg Bool.false_ne_true, marks.settled,
      inductionHypothesis, List.countP_cons, Nat.zero_add, Nat.add_comm]

mutual

/-- However many panics there were, the log of a report has as many lines that count as there are
outcomes at or below the group that are worth one. -/
theorem Marks.countP_log (marks : Marks counts worth) (outer : List String) (depth : Nat) :
    (report : ReportNode) → (alarms : Alarms) →
      (report.log outer depth alarms).countP counts =
        report.outcomesBelow.countP fun entry => worth entry.2
  | ⟨name, outcomes, children, passed⟩, alarms => by
    rw [ReportNode.log, ReportNode.outcomesBelow_mk, List.countP_cons, marks.created,
      if_neg Bool.false_ne_true, List.countP_append, List.countP_append, List.countP_append,
      marks.entered, marks.countP_outcomes, marks.countP_logAll _ _ children, Nat.zero_add,
      Nat.add_zero]

theorem Marks.countP_logAll (marks : Marks counts worth) (outer : List String) (depth : Nat) :
    (reports : List ReportNode) → (alarms : List Alarms) →
      (ReportNode.logAll outer depth reports alarms).countP counts =
        (reports.flatMap ReportNode.outcomesBelow).countP fun entry => worth entry.2
  | [], _ => rfl
  | report :: rest, alarms => by
    rw [ReportNode.logAll, List.flatMap_cons, List.countP_append, List.countP_append,
      marks.countP_log outer depth report, marks.countP_logAll outer depth rest]

end

end LogLine

/-- Whether an entry tells of an execution. The others tell of what is registered. -/
def TraceEntry.isExecution : TraceEntry → Bool
  | .span .. => true
  | .record written _ => !written.isRegistration

/-! ### Panics along a course -/

/-- The signals of a call that runs no suite and holds no guard: panics on whichever threads, and
records of what is registered. -/
def Signal.isSolitary : Signal → Bool
  | .logged record => record.isRegistration
  | .panicked .. => true
  | _ => false

/-- Whether the hook is called for a panic on the main thread. -/
def Signal.isAlarm : Signal → Bool
  | .panicked .main _ => true
  | _ => false

/-- How often the hook is called for a panic on the main thread while an action is called and driven
to its end. -/
def Action.alarms {State : Type} (action : Action State) (state : State) : Nat :=
  (action.call.follow.complete state).signals.countP Signal.isAlarm

namespace Course

variable {Act State : Type} (call : Act → State → State × Except Cause Unit)
  (alarms : Act → State → Nat)

/-- The panics of a hook, if there is one. -/
def hookAlarms : Option Act → State → Nat
  | none, _ => 0
  | some hook, state => alarms hook state

/-- The panics of a test, if nothing failed before it. -/
def bodyAlarms (test : Test Act) : Option Cause → State → Nat
  | some _, _ => 0
  | none, state => alarms test.action state

/-- The panics of a test and its hooks. -/
def testAlarms (hooks : Hooks Act) (test : Test Act) (state : State) : Nat :=
  let (prepared, before) := hook call hooks.beforeEach state
  let (tested, _) := body call test before prepared
  hookAlarms alarms hooks.beforeEach state + bodyAlarms alarms test before prepared +
    hookAlarms alarms hooks.afterEach tested

/-- The panics of each test of a group in order. -/
def testsAlarms (hooks : Hooks Act) : List (Test Act) → State → List Nat
  | [], _ => []
  | first :: rest, state =>
    testAlarms call alarms hooks first state ::
      testsAlarms hooks rest (Course.test call hooks first state).1

mutual

/-- The panics of a group: those of its own tests, and then those of its children. -/
def groupAlarms : Group Act → State → Alarms
  | ⟨_, list, children, hooks⟩, state =>
    ⟨testsAlarms call alarms hooks list state,
      groupsAlarms children (tests call hooks list state).1⟩

/-- The panics of groups one after another. -/
def groupsAlarms : List (Group Act) → State → List Alarms
  | [], _ => []
  | first :: rest, state =>
    groupAlarms first state :: groupsAlarms rest (group call first state).1

end

/-- A course has an outcome for each test. -/
theorem length_tests (hooks : Hooks Act) (list : List (Test Act)) (state : State) :
    (tests call hooks list state).2.length = list.length := by
  induction list generalizing state with
  | nil => rfl
  | cons first rest inductionHypothesis => exact congrArg Nat.succ (inductionHypothesis _)

end Course

/-! ### Processes in which a guard is live -/

namespace Host

/-- Panics of the main thread are absorbed. -/
def Silenced (host : Host) : Prop := host.routing.receive .main = .absorbed

/-- What is collected of the entries that tell of executions, and not of registrations. -/
def executions (host : Host) : List LogLine :=
  (host.trace.filter TraceEntry.isExecution).map TraceEntry.line

/-- The lines are those of executions that were added to the trace, and neither guards nor spans
have changed. -/
structure Adds (lines : List LogLine) (before after : Host) : Prop where
  routing : after.routing = before.routing
  entered : after.entered = before.entered
  executions : after.executions = before.executions ++ lines

theorem Adds.refl (host : Host) : Adds [] host host := ⟨rfl, rfl, (List.append_nil _).symm⟩

theorem Adds.trans {first second : List LogLine} {before between after : Host}
    (one : Adds first before between) (two : Adds second between after) :
    Adds (first ++ second) before after :=
  ⟨two.routing.trans one.routing, two.entered.trans one.entered, by
    rw [two.executions, one.executions, List.append_assoc]⟩

theorem Adds.silenced {lines : List LogLine} {before after : Host}
    (adds : Adds lines before after) (silenced : before.Silenced) : after.Silenced := by
  unfold Silenced
  rw [adds.routing]
  exact silenced

theorem adds_log (host : Host) (record : LogRecord) :
    host.Adds (if record.isRegistration then []
        else [TraceEntry.line (.record record host.entered.reverse)]) (host.log record) := by
  refine ⟨rfl, rfl, ?_⟩
  show List.map _ (List.filter _ (host.trace ++ [_])) = _
  rw [List.filter_append, List.map_append, List.filter_cons, List.filter_nil,
    TraceEntry.isExecution]
  cases record.isRegistration <;> rfl

/-- In a process in which a guard is live, a panic is logged if it is one of the main thread. -/
theorem adds_panic {host : Host} (silenced : host.Silenced) (thread : Thread) (payload : Payload) :
    Adds (LogLine.absorbed host.entered.reverse
        (if (Signal.panicked thread payload).isAlarm then 1 else 0)) host
      (host.panic thread payload) := by
  unfold panic
  cases thread with
  | main =>
    rw [silenced]
    exact host.adds_log .panicAbsorbed
  | worker name =>
    cases host.routing.receive (.worker name) <;> exact ⟨rfl, rfl, (List.append_nil _).symm⟩
  | formatter =>
    cases host.routing.receive .formatter <;> exact ⟨rfl, rfl, (List.append_nil _).symm⟩

/-- In a process in which a guard is live, the signals of a call add a line for each panic of the
main thread. -/
theorem adds_of_isSolitary {signals : List Signal}
    (solitary : ∀ signal ∈ signals, signal.isSolitary = true) {host : Host}
    (silenced : host.Silenced) :
    Adds (LogLine.absorbed host.entered.reverse (signals.countP Signal.isAlarm)) host
      (host.receiveAll signals) := by
  induction signals generalizing host with
  | nil => exact .refl host
  | cons signal rest inductionHypothesis =>
    obtain ⟨first, others⟩ := List.forall_mem_cons.mp solitary
    have adds : Adds (LogLine.absorbed host.entered.reverse (if signal.isAlarm then 1 else 0))
        host (host.receive signal) := by
      cases signal with
      | logged record =>
        have registration : record.isRegistration = true := first
        have added := host.adds_log record
        rwa [registration, if_pos rfl] at added
      | panicked thread payload => exact adds_panic silenced thread payload
      | _ => cases first
    have later := inductionHypothesis others (adds.silenced silenced)
    rw [adds.entered] at later
    have both := adds.trans later
    rw [LogLine.absorbed_append] at both
    rw [List.countP_cons, Nat.add_comm]
    exact both

end Host

/-! ### Futures that run no suite -/

namespace Future

variable {State Value Other : Type}

/-- The future runs no suite and holds no guard, so all it does to its process is to panic and to
register. -/
def Solitary : Future State Value → Prop
  | .ready _ => True
  | .unwind _ => True
  | .pending rest => rest.Solitary
  | .send signal rest => signal.isSolitary = true ∧ rest.Solitary
  | .read step => ∀ state, (step state).Solitary
  | .write _ rest => rest.Solitary

theorem Solitary.complete {future : Future State Value} (solitary : future.Solitary)
    (state : State) : ∀ signal ∈ (future.complete state).signals, signal.isSolitary = true := by
  induction future generalizing state with
  | ready value => exact fun _ member => absurd member List.not_mem_nil
  | unwind payload => exact fun _ member => absurd member List.not_mem_nil
  | pending rest inductionHypothesis => exact inductionHypothesis solitary state
  | send signal rest inductionHypothesis =>
    exact List.forall_mem_cons.mpr ⟨solitary.1, inductionHypothesis solitary.2 state⟩
  | read step inductionHypothesis => exact inductionHypothesis state (solitary state) state
  | write next rest inductionHypothesis => exact inductionHypothesis solitary next

/-- Each poll of the future leaves the spans as it finds them, whatever it tells. -/
def Level (future : Future State Value) : Prop :=
  ∀ outer, future.Tells outer ⟨fun _ => True, fun _ _ => True⟩

theorem Level.bind {future : Future State Value} {next : Value → Future State Other}
    (first : future.Level) (second : ∀ value, (next value).Level) : (future.bind next).Level :=
  fun outer => (first outer).bind (fun _ _ => trivial) (fun _ _ _ => trivial) fun value _ _ =>
    second value outer

theorem level_ready (value : Value) : (.ready value : Future State Value).Level :=
  fun _ => tells_ready trivial

theorem Solitary.level {future : Future State Value} (solitary : future.Solitary) :
    future.Level := by
  intro outer
  induction future with
  | ready value => exact tells_ready trivial
  | unwind payload => exact tells_unwind trivial
  | pending rest inductionHypothesis => exact ⟨rfl, trivial, inductionHypothesis solitary⟩
  | send signal rest inductionHypothesis =>
    have further := inductionHypothesis solitary.2
    cases signal with
    | logged record => exact tells_logged further
    | panicked thread payload => exact tells_panicked further further
    | _ => exact absurd solitary.1 Bool.false_ne_true
  | read step inductionHypothesis => exact fun state => inductionHypothesis state (solitary state)
  | write state rest inductionHypothesis => exact inductionHypothesis solitary

/-- To the process, a span around a level future does nothing in the end but to be left. -/
theorem receiveAll_withinSpan {future : Future State Value} {outer opened : List String}
    {name : String} {told : List TraceEntry}
    (level : future.Upholds (outer ++ [name]) ⟨fun _ => True, fun _ _ => True⟩ opened told)
    (state : State) {host : Host} (entered : host.entered = opened ++ (outer ++ [name]).reverse) :
    host.receiveAll ((future.withinSpan name).complete state).signals =
      (host.receiveAll (future.complete state).signals).receive .spanLeft := by
  induction future generalizing opened told state host with
  | ready value => rfl
  | unwind payload => rfl
  | pending rest inductionHypothesis =>
    obtain ⟨rfl, _, rest⟩ := level
    have again : (host.receive .spanLeft).receive (.spanEntered name) = host := by
      rw [List.nil_append, List.reverse_concat] at entered
      show { host with entered := name :: host.entered.tail } = host
      rw [entered, List.tail_cons, ← entered]
    show ((host.receive .spanLeft).receive (.spanEntered name)).receiveAll _ = _
    rw [again]
    exact inductionHypothesis rest state entered
  | send signal rest inductionHypothesis =>
    obtain ⟨next, stands, rest⟩ := level host entered
    exact inductionHypothesis rest state stands
  | read step inductionHypothesis => exact inductionHypothesis state (level state) state entered
  | write next rest inductionHypothesis => exact inductionHypothesis level next entered

end Future

/-- Called and driven to its end, the action does nothing to the process but panic. It runs no suite
and holds no guard. -/
def Action.Solitary {State : Type} (action : Action State) : Prop :=
  action.call.follow.Solitary

/-! ### Futures that catch no panics of their own -/

namespace Future

variable {State Value : Type}

/-- The hook is called for no panic of the main thread but for the one that the future ends with. -/
def Forthright : Future State Value → Prop
  | .ready _ => True
  | .unwind _ => True
  | .pending rest => rest.Forthright
  | .send signal rest => rest.Forthright ∧
      (signal.isAlarm = true → ∀ state, (rest.complete state).signals.countP Signal.isAlarm = 0 ∧
        (rest.complete state).result.toBool = false)
  | .read step => ∀ state, (step state).Forthright
  | .write _ rest => rest.Forthright

/-- Whether a future ends with a panic, and the hook is called on the way. -/
def panicsAloud (future : Future State Value) (state : State) : Bool :=
  !(future.complete state).result.toBool && (future.complete state).signals.any Signal.isAlarm

theorem Forthright.countP_isAlarm {future : Future State Value} (forthright : future.Forthright)
    (state : State) :
    (future.complete state).signals.countP Signal.isAlarm =
      if future.panicsAloud state then 1 else 0 := by
  induction future generalizing state with
  | ready value => rfl
  | unwind payload => rfl
  | pending rest inductionHypothesis => exact inductionHypothesis forthright state
  | send signal rest inductionHypothesis =>
    obtain ⟨further, ending⟩ := forthright
    by_cases alarm : signal.isAlarm = true
    · obtain ⟨silent, unwinds⟩ := ending alarm state
      have aloud : (Future.send signal rest).panicsAloud state = true := by
        show (!(rest.complete state).result.toBool && (signal.isAlarm || _)) = true
        rw [unwinds, alarm]
        rfl
      rw [aloud, if_pos rfl]
      exact (List.countP_cons_of_pos alarm).trans (congrArg Nat.succ silent)
    · have quiet : (Future.send signal rest).panicsAloud state = rest.panicsAloud state := by
        show (_ && (signal.isAlarm || _)) = _
        rw [Bool.eq_false_iff.mpr alarm]
        rfl
      rw [quiet, ← inductionHypothesis further state]
      exact List.countP_cons_of_neg alarm
  | read step inductionHypothesis => exact inductionHypothesis state (forthright state) state
  | write next rest inductionHypothesis => exact inductionHypothesis forthright next

end Future

namespace Execution

open Future Course

variable {State Value Other : Type}

/-! ### Level executions -/

theorem compositional_level :
    Compositional fun {_} (execution : Execution State _) => execution.Level where
  value := level_ready
  bind := Level.bind
  log _ _ := tells_logged (tells_ready trivial)
  countTest _ := tells_modify _ trivial
  countPassed _ := tells_modify _ trivial
  announce _ _ := tells_modify _ trivial
  within name _ _ level _ := tells_spanCreated ((level _).instrument name)

theorem level_perform {action : Action State} (solitary : action.Solitary) (boundary : Boundary) :
    (perform boundary action).Level := by
  unfold perform await
  rw [Boundary.follow_enclose]
  intro outer
  refine Upholds.onFirst ?_
  have level := Solitary.level solitary
  cases boundary with
  | isolating silent =>
    have caught : action.call.follow.attempt.Level := fun outer => Upholds.attempt (level outer)
    exact caught.bind (fun _ => level_ready _) outer
  | transparent => exact level.bind (fun _ => level_ready _) outer

/-! ### What an execution adds to the log -/

/-- From a state the execution comes to the value and leaves the second state, and within the chain
it adds the lines to the log of any process in which a guard is live. -/
def Logs (chain : List String) (execution : Execution State Value) (state : State)
    (lines : List LogLine) (value : Value) (after : State) : Prop :=
  ∀ tally, ∃ books, execution.Yields (state, tally) value (after, books) ∧
    ∀ host : Host, host.Silenced → host.entered.reverse = chain →
      host.Adds lines (host.receiveAll (execution.complete (state, tally)).signals)

variable {chain : List String}

theorem logs_of_signals {execution : Execution State Value} {state : State} {value : Value}
    (yields : ∀ tally, ∃ books, execution.Yields (state, tally) value (state, books) ∧
      (execution.complete (state, tally)).signals = []) :
    Logs chain execution state [] value state := by
  intro tally
  obtain ⟨books, yielded, silent⟩ := yields tally
  refine ⟨books, yielded, fun host _ _ => ?_⟩
  rw [silent]
  exact .refl host

theorem logs_pure (value : Value) (state : State) :
    Logs chain (pure value) state [] value state :=
  logs_of_signals fun tally => ⟨tally, (yields_pure_iff _ _ _ _).mpr ⟨rfl, rfl⟩, rfl⟩

theorem logs_recount (change : Tally → Tally) (state : State) :
    Logs chain (recount change) state [] () state :=
  logs_of_signals fun tally => ⟨change tally, (yields_recount_iff _ () _ _).mpr rfl, rfl⟩

theorem logs_log {record : LogRecord} (execution : record.isRegistration = false) (state : State) :
    Logs chain (log record) state [TraceEntry.line (.record record chain)] () state := by
  refine fun tally => ⟨tally, (yields_log_iff _ () _ _).mpr rfl, ?_⟩
  rintro host _ rfl
  have added := host.adds_log record
  rwa [execution, if_neg Bool.false_ne_true] at added

theorem Logs.bind {execution : Execution State Value} {next : Value → Execution State Other}
    {state between after : State} {first second : List LogLine} {value : Value} {result : Other}
    (one : Logs chain execution state first value between)
    (two : Logs chain (next value) between second result after) :
    Logs chain (execution >>= next) state (first ++ second) result after := by
  intro tally
  obtain ⟨books, begun, adds⟩ := one tally
  obtain ⟨further, ended, addsMore⟩ := two books
  refine ⟨further, begun.bind ended, fun host silenced entered => ?_⟩
  show host.Adds _ (host.receiveAll ((Future.bind next execution).complete _).signals)
  rw [complete_bind, Completed.andThen, begun.1]
  show host.Adds _ (host.receiveAll (_ ++ ((next value).complete _).signals))
  rw [begun.2, Host.receiveAll_append]
  have early := adds host silenced entered
  refine early.trans (addsMore _ (early.silenced silenced) ?_)
  rw [early.entered, entered]

/-- What follows and adds nothing changes nothing about the lines. -/
theorem Logs.bind_quiet {execution : Execution State Value} {next : Value → Execution State Other}
    {state between after : State} {lines : List LogLine} {value : Value} {result : Other}
    (one : Logs chain execution state lines value between)
    (two : Logs chain (next value) between [] result after) :
    Logs chain (execution >>= next) state lines result after := by
  have both := one.bind two
  rwa [List.append_nil] at both

/-- The lines of what is executed within a span come after the span itself. -/
theorem Logs.within {execution : Execution State Value} {state after : State}
    {lines : List LogLine} {value : Value} {name : String} (depth : Nat)
    (logs : Logs (chain ++ [name]) execution state lines value after) (level : execution.Level) :
    Logs chain (within name depth execution) state
      (TraceEntry.line (.span name depth) :: lines) value after := by
  intro tally
  obtain ⟨books, yields, adds⟩ := logs tally
  refine ⟨books, (yields_within_iff name depth _ _ _ _).mpr yields, ?_⟩
  rintro host silenced rfl
  -- The process between the entry of the span and its exit.
  have inside := adds { host with
    entered := name :: host.entered, trace := host.trace ++ [.span name depth] } silenced
      List.reverse_cons
  show host.Adds _ (Host.receiveAll _ ((execution.withinSpan name).complete _).signals)
  rw [receiveAll_withinSpan (level (host.entered.reverse ++ [name])) (state, tally)
    (by rw [List.reverse_concat, List.reverse_reverse]; rfl)]
  refine ⟨inside.routing, congrArg List.tail inside.entered, inside.executions.trans ?_⟩
  show List.map _ (List.filter _ (host.trace ++ [_])) ++ lines = _
  rw [List.filter_append, List.map_append, List.append_assoc]
  rfl

/-! ### Tests -/

theorem logs_perform {silent : Bool} {action : Action State} (solitary : action.Solitary)
    (state : State) :
    Logs chain (perform (.isolating silent) action) state
      (LogLine.absorbed chain (action.alarms state)) (action.answer state).2
      (action.answer state).1 := by
  intro tally
  obtain ⟨left, result⟩ := complete_enclose (.isolating silent) action state
  have sent := Boundary.signals_enclose (.isolating silent) action state
  unfold perform await Yields
  rw [complete_onFirst]
  refine ⟨tally, ⟨result, congrArg (·, tally) left⟩, ?_⟩
  rintro host silenced rfl
  rw [sent]
  exact Host.adds_of_isSolitary (solitary.complete state) silenced

theorem logs_runHook {silent : Bool} {hooks : Hooks (Action State)}
    (solitary : ∀ action ∈ hooks.actions, action.Solitary) (slot : HookSlot) (state : State) :
    Logs chain (runHook (.isolating silent) hooks slot) state
      (LogLine.absorbed chain (hookAlarms Action.alarms (hooks.get? slot) state))
      ((hook Action.answer (hooks.get? slot) state).2.map fun cause => ⟨slot.phase, cause⟩)
      (hook Action.answer (hooks.get? slot) state).1 := by
  unfold runHook
  cases found : hooks.get? slot with
  | none => exact logs_pure none state
  | some action =>
    refine (logs_perform (solitary action (Hooks.mem_actions found)) state).bind_quiet ?_
    simp only [hook]
    cases (action.answer state).2 <;> exact logs_pure _ _

theorem logs_runAction {silent : Bool} {test : Test (Action State)}
    (solitary : test.action.Solitary) (before : Option Cause) (state : State) :
    Logs chain (runAction (.isolating silent) test (before.map fun cause => ⟨.beforeEach, cause⟩))
      state (LogLine.absorbed chain (bodyAlarms Action.alarms test before state))
      (body Action.answer test before state).2 (body Action.answer test before state).1 := by
  cases before with
  | some cause => exact logs_pure _ state
  | none =>
    refine (logs_perform solitary state).bind_quiet ?_
    simp only [body]
    cases (test.action.answer state).2 <;> exact logs_pure _ _

theorem logs_logOutcome (test : String) (outcome : Outcome) (state : State) :
    Logs chain (logOutcome test outcome) state (LogLine.settled chain test outcome) () state := by
  obtain ⟨status, teardown⟩ := outcome
  cases status <;> cases teardown <;> rw [logOutcome]
  case passed.none => exact logs_pure () state
  all_goals exact logs_log rfl state

/-- A test adds the lines of its panics, and then what its outcome calls for. -/
theorem logs_runTest {silent : Bool} {hooks : Hooks (Action State)} {test : Test (Action State)}
    (hooksSolitary : ∀ action ∈ hooks.actions, action.Solitary) (solitary : test.action.Solitary)
    (state : State) :
    Logs chain (runTest (.isolating silent) hooks test) state
      (LogLine.absorbed chain (testAlarms Action.answer Action.alarms hooks test state) ++
        LogLine.settled chain test.name (Course.test Action.answer hooks test state).2)
      (Course.test Action.answer hooks test state).2
      (Course.test Action.answer hooks test state).1 := by
  unfold runTest testAlarms
  rw [← LogLine.absorbed_append, ← LogLine.absorbed_append, List.append_assoc,
    List.append_assoc]
  refine (logs_runHook hooksSolitary .beforeEach state).bind ?_
  refine (logs_runAction solitary _ _).bind ?_
  refine (logs_runHook hooksSolitary .afterEach _).bind ?_
  exact (logs_logOutcome test.name _ _).bind_quiet (logs_pure _ _)

theorem logs_countedTest {silent : Bool} {hooks : Hooks (Action State)} (depth : Nat)
    {test : Test (Action State)} (hooksSolitary : ∀ action ∈ hooks.actions, action.Solitary)
    (solitary : test.action.Solitary) (state : State) :
    Logs chain (countedTest (.isolating silent) hooks depth test) state
      (LogLine.absorbed chain (testAlarms Action.answer Action.alarms hooks test state) ++
        LogLine.settled chain test.name (Course.test Action.answer hooks test state).2)
      (test.name, (Course.test Action.answer hooks test state).2)
      (Course.test Action.answer hooks test state).1 := by
  refine (logs_recount _ state).bind ?_
  refine (logs_runTest hooksSolitary solitary state).bind_quiet ?_
  cases (Course.test Action.answer hooks test state).2.isPassed with
  | true =>
    exact (logs_recount _ _).bind_quiet ((logs_recount _ _).bind_quiet (logs_pure _ _))
  | false => exact (logs_recount _ _).bind_quiet (logs_pure _ _)

theorem logs_runTests {silent : Bool} {hooks : Hooks (Action State)} (depth : Nat)
    {list : List (Test (Action State))}
    (hooksSolitary : ∀ action ∈ hooks.actions, action.Solitary)
    (solitary : ∀ action ∈ list.map Test.action, action.Solitary) (state : State) :
    Logs chain (runTests (.isolating silent) hooks depth list) state
      (Outcome.logAll chain (tests Action.answer hooks list state).2
        (testsAlarms Action.answer Action.alarms hooks list state))
      (tests Action.answer hooks list state).2 (tests Action.answer hooks list state).1 := by
  induction list generalizing state with
  | nil => exact logs_pure [] state
  | cons first rest inductionHypothesis =>
    rw [List.map_cons, List.forall_mem_cons] at solitary
    rw [tests, testsAlarms, Outcome.logAll, ← List.append_assoc]
    refine (logs_countedTest depth hooksSolitary solitary.1 state).bind ?_
    exact (inductionHypothesis solitary.2 _).bind_quiet (logs_pure _ _)

/-! ### Groups -/

theorem logs_announceGroup (name : Option String) (tests depth : Nat) (state : State) :
    Logs chain (announceGroup name tests depth) state (LogLine.entered chain name tests) ()
      state := by
  cases name with
  | none => exact logs_pure () state
  | some name => exact (logs_log rfl state).bind_quiet (logs_recount _ state)

mutual

/-- The execution of a group adds the log of its report. -/
theorem logs_executeGroup {silent : Bool} {outer : List String} (depth : Nat) :
    (tree : Group (Action State)) → (∀ action ∈ tree.actions, action.Solitary) →
      (state : State) →
      Logs outer (executeGroup (.isolating silent) depth tree) state
        ((group Action.answer tree state).2.log outer depth
          (groupAlarms Action.answer Action.alarms tree state))
        (group Action.answer tree state).2 (group Action.answer tree state).1
  | ⟨name, list, children, hooks⟩, solitary, state => by
    simp only [Group.actions, List.forall_mem_append] at solitary
    obtain ⟨⟨hooksSolitary, testsSolitary⟩, childrenSolitary⟩ := solitary
    rw [executeGroup]
    refine Logs.within depth ?_ ?_
    · rw [← length_tests Action.answer hooks list state]
      refine (logs_announceGroup name _ depth state).bind ?_
      refine (logs_runTests (depth + 1) hooksSolitary testsSolitary state).bind ?_
      exact (logs_executeGroups (depth + 1) children childrenSolitary _).bind_quiet (logs_pure _ _)
    · have levelOf {actions : List (Action State)}
          (solitary : ∀ action ∈ actions, action.Solitary) :
          ∀ action ∈ actions, (perform (.isolating silent) action).Level :=
        fun action member => level_perform (solitary action member) _
      refine (compositional_level.announceGroup name list.length depth).bind fun _ => ?_
      refine (compositional_level.runTests (levelOf hooksSolitary) (depth + 1)
        (levelOf testsSolitary)).bind fun outcomes => ?_
      exact (compositional_level.executeGroups (depth + 1) children (levelOf childrenSolitary)).bind
        fun reports => level_ready _

theorem logs_executeGroups {silent : Bool} {outer : List String} (depth : Nat) :
    (trees : List (Group (Action State))) →
      (∀ action ∈ Group.actionsBelow trees, action.Solitary) → (state : State) →
      Logs outer (executeGroups (.isolating silent) depth trees) state
        (ReportNode.logAll outer depth (groups Action.answer trees state).2
          (groupsAlarms Action.answer Action.alarms trees state))
        (groups Action.answer trees state).2 (groups Action.answer trees state).1
  | [], _, state => logs_pure [] state
  | first :: rest, solitary, state => by
    simp only [Group.actionsBelow, List.forall_mem_append] at solitary
    rw [executeGroups]
    refine (logs_executeGroup depth first solitary.1 state).bind ?_
    exact (logs_executeGroups depth rest solitary.2 _).bind_quiet (logs_pure _ _)

end

end Execution

/-! ### Runs -/

namespace Runner

open Future Course

variable {State Kept Error : Type}

/-- A conclusion with a report records the end of the run and drops its guard. -/
theorem signals_conclude {runner : Runner State Kept Error}
    {delivery : Formatter.Delivery Kept Error} {result : Except Payload ReportNode} {tally : Tally}
    {kept : Kept} {report : Report Error} {before after : State}
    (yields : (runner.conclude delivery result tally).Yields before ⟨kept, .ok report⟩ after) :
    ((runner.conclude delivery result tally).complete before).signals =
      .logged (finished tally) :: guardDown runner.boundary false := by
  unfold conclude at yields ⊢
  cases result with
  | error payload => exact absurd yields (not_yields_abort _ _ _ _ _ _ _ _)
  | ok root =>
    cases panicked : delivery.panic with
    | some payload =>
      simp only [panicked] at yields
      exact absurd yields (not_yields_abort _ _ _ _ _ _ _ _)
    | none =>
      simp only [panicked, yields_send_iff] at yields ⊢
      refine congrArg (List.cons _) ?_
      cases ending : (runner.formatter.deliver delivery (.runOutcomes (summary tally))).panic with
      | some payload =>
        simp only [ending] at yields
        exact absurd yields (not_yields_abort _ _ _ _ _ _ _ _)
      | none =>
        simp only [complete_sendAll]
        exact List.append_nil _

/-- The signals of a run that returns its report: its guard goes up, the groups are executed, the
end is recorded, and the guard goes down. -/
theorem signals_of_returned {runner : Runner State Kept Error} {state : State}
    {report : Report Error} (returned : (runner.run.complete state).result = .ok report) :
    ∃ tally after,
      (Execution.executeGroup runner.boundary 0 runner.suite.root).Yields (state, .zero) report.root
        (after, tally) ∧
      finished tally = .runFinished report.total report.passed report.failed ∧
      (runner.run.complete state).signals = guardUp runner.boundary ++
        (((Execution.executeGroup runner.boundary 0 runner.suite.root).complete
            (state, .zero)).signals ++
          .logged (finished tally) :: guardDown runner.boundary false) := by
  obtain ⟨kept, conducted⟩ := (yields_run_iff runner report state _).mp (Yields.of_result returned)
  have sent : (runner.run.complete state).signals = (runner.conduct.complete state).signals := by
    unfold run
    rw [complete_bind, Completed.andThen, conducted.1]
    exact List.append_nil _
  rw [sent]
  unfold conduct at conducted ⊢
  rw [yields_sendAll_iff] at conducted
  rw [complete_sendAll]
  cases opening : (runner.formatter.deliver ⟨runner.initial, [], none⟩
      (.runStart runner.suite.testCount)).panic with
  | some payload =>
    simp only [opening] at conducted
    exact absurd conducted (not_yields_abort _ _ _ _ _ _ _ _)
  | none =>
    simp only [opening] at conducted ⊢
    obtain ⟨⟨result, tally⟩, between, started, concluded⟩ :=
      (yields_bind_iff _ _ _ _ _).mp conducted
    have ended := signals_conclude concluded
    obtain ⟨root, rfl, _, _, rfl, _⟩ := (yields_conclude_iff _ _ _ _ _ _ _ _).mp concluded
    refine ⟨tally, between, (yields_start_iff _ root tally state between).mp started, rfl, ?_⟩
    rw [complete_bind, Completed.andThen, started.1]
    refine congrArg _ ?_
    show (Future.complete state (Execution.start _)).signals ++ (Future.complete _ _).signals = _
    rw [started.2, ended]
    unfold Execution.start
    rw [complete_collect]

/-- When the standard boundary has put its guard up in a process without guards, panics of the main
thread are absorbed. -/
theorem silenced_guardUp {host : Host} (unguarded : host.routing.Counts []) :
    (host.receive (.guardInstalled .main)).Silenced := by
  have first := (unguarded.active_eq_zero_iff).mpr rfl
  have held := (unguarded.install .main).pos_of_mem List.mem_cons_self
  show Hook.receive ((host.routing.install .main).held .main) (host.routing.install .main).hook = _
  rw [(Routing.install_first first .main).1]
  exact if_neg (Nat.pos_iff_ne_zero.mp held.2)

/-- With the standard boundary, in a process without guards, what a run logs of its execution is the
log of its report with the panics of its calls, and then the line of its end with the counts of the
report. It has a warning for each outcome that passed with a failing teardown and the line of a
failure for each test that failed. A call that catches no panics of its own is logged once if it
panics and calls the hook, and not at all otherwise. -/
theorem log_tells_report {runner : Runner State Kept Error} (standard : runner.boundary = .standard)
    (solitary : ∀ action ∈ runner.suite.root.actions, action.Solitary) {state : State}
    {report : Report Error} (returned : (runner.run.complete state).result = .ok report)
    {host : Host} (unguarded : host.routing.Counts []) :
    let outer := host.entered.reverse
    let alarms := groupAlarms Action.answer Action.alarms runner.suite.root state
    let lines := report.root.log outer 0 alarms
    (host.receiveAll (runner.run.complete state).signals).executions = host.executions ++
        (lines ++ [.finished outer report.total report.passed report.failed]) ∧
      (lines.countP LogLine.isWarning = report.root.outcomesBelow.countP fun entry =>
        entry.2.isPassed && entry.2.teardown.isSome) ∧
      lines.countP LogLine.isFailure = report.failed ∧
      ∀ action ∈ runner.suite.root.actions, action.call.follow.Forthright → ∀ state,
        action.alarms state = if action.call.follow.panicsAloud state then 1 else 0 := by
  intro outer alarms lines
  obtain ⟨tally, after, executed, ended, sent⟩ := signals_of_returned returned
  rw [standard, Boundary.standard] at executed sent
  refine ⟨?_, LogLine.marks_isWarning.countP_log _ _ _ _, ?_,
    fun action _ forthright state => forthright.countP_isAlarm state⟩
  · obtain ⟨books, yields, adds⟩ := Execution.logs_executeGroup 0 runner.suite.root solitary state
      .zero
    have root : (group Action.answer runner.suite.root state).2 = report.root :=
      Except.ok.inj (yields.1.symm.trans executed.1)
    rw [root] at adds
    have logged := adds _ (silenced_guardUp unguarded) rfl
    have whole := logged.trans (Host.adds_log _ (finished tally))
    rw [logged.entered, ended] at whole
    rw [sent, Host.receiveAll_append, Host.receiveAll_append, ended]
    exact whole.executions
  · obtain ⟨root, _, _, _, rfl⟩ :=
      (yields_run_root_iff runner report state _).mp (Yields.of_result returned)
    rw [LogLine.marks_isFailure.countP_log]
    exact root.countP_isFailed

/-- A run with something for each kind of line. The first test registers one of its own. The hook
before each test of the root panics when it is called again, the one after each test always panics,
and of the two tests of the child one raises its panic and the other one resumes it. -/
def eventful : Runner Nat Unit Empty :=
  ⟨⟨⟨none,
      [⟨"kept", .blocking fun count => ⟨[.logged (.registering "another")], count, .ok .success⟩⟩,
        ⟨"lost", .blocking (pure .success)⟩],
      [⟨some "inner",
        [⟨"loud", .asynchronous (pure (.pending
            (.send (.panicked .main .other) (.unwind .other))))⟩,
          ⟨"quiet", .asynchronous (Immediate.panic (.resumed (.text "gone")))⟩], [], .empty⟩],
      ⟨some (.blocking fun count => if count = 0 then ⟨[], 1, .ok .success⟩
          else Immediate.panic (.raised (.text "early")) count),
        some (.blocking (Immediate.panic (.raised (.text "late"))))⟩⟩⟩,
    .standard, .silent, ()⟩

/-- The report of the root of the eventful run. -/
def eventfulRoot : ReportNode :=
  ⟨none, [("kept", ⟨.passed, some ⟨.afterEach, .panicked "late"⟩⟩),
      ("lost", ⟨.failed ⟨.beforeEach, .panicked "early"⟩, some ⟨.afterEach, .panicked "late"⟩⟩)],
    [⟨some "inner", [("loud", ⟨.failed ⟨.test, .panicked "non-string panic payload"⟩, none⟩),
      ("quiet", ⟨.failed ⟨.test, .panicked "gone"⟩, none⟩)], [], false⟩], false⟩

theorem solitary_eventful : ∀ action ∈ eventful.suite.root.actions, action.Solitary := by
  show ∀ action ∈ [_, _, _, _, _, _], _
  simp only [List.forall_mem_cons]
  refine ⟨fun count => ?_, fun _ => ⟨rfl, trivial⟩, fun _ => ⟨rfl, trivial⟩, fun _ => trivial,
    fun _ => ⟨rfl, trivial⟩, fun _ => trivial, fun _ member => absurd member List.not_mem_nil⟩
  cases count with
  | zero => exact trivial
  | succ count => exact ⟨rfl, trivial⟩

theorem log_tells_report_eventful :
    (eventful.run.complete 0).result = .ok ⟨eventfulRoot, 4, 1, []⟩ ∧
      (Host.receiveAll ⟨.initial (.noting "outer"), ["caller"], [], []⟩
          (eventful.run.complete 0).signals).executions =
        [.span .debug "group" [("name", .text ""), ("depth", .number 0)],
          .record .debug "test panicked" [] ["caller", ""],
          .record .warn "after each hook failed for a passing test"
            [("test", .text "kept"), ("teardown", .text "after each hook: late")] ["caller", ""],
          .record .debug "test panicked" [] ["caller", ""],
          .record .debug "test panicked" [] ["caller", ""],
          .record .debug "test failed"
            [("test", .text "lost"), ("failure", .text "before each hook: early")] ["caller", ""],
          .span .debug "group" [("name", .text "inner"), ("depth", .number 1)],
          .record .debug "entering group" [("tests", .number 2)] ["caller", "", "inner"],
          .record .debug "test panicked" [] ["caller", "", "inner"],
          .record .debug "test failed"
            [("test", .text "loud"), ("failure", .text "non-string panic payload")]
            ["caller", "", "inner"],
          .record .debug "test failed" [("test", .text "quiet"), ("failure", .text "gone")]
            ["caller", "", "inner"],
          .record .debug "run finished"
            [("total", .number 4), ("passed", .number 1), ("failed", .number 3)] ["caller"]] := by
  have returned : (eventful.run.complete 0).result = .ok ⟨eventfulRoot, 4, 1, []⟩ := rfl
  refine ⟨returned, ?_⟩
  have alarms : groupAlarms Action.answer Action.alarms eventful.suite.root 0 =
      ⟨[1, 2], [⟨[1, 0], []⟩]⟩ := rfl
  obtain ⟨trace, _⟩ := @log_tells_report Nat Unit Empty eventful rfl solitary_eventful 0 _ returned
    ⟨.initial (.noting "outer"), ["caller"], [], []⟩ (Routing.counts_initial _)
  rw [alarms] at trace
  exact trace

end Runner

end TestTree
