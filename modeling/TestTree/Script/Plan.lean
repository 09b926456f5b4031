/-
This file runs suites of scripted actions.

A plan says what to register, under which boundary and to which outlet to run it, and what to ask
about the report. Carrying out a plan registers the suite at the first poll and then runs it. A
plan can be carried out by itself, together with others on the same state, or inside an action.

A run can block its thread: it drives itself to its end within one poll, and nobody else on the
thread works meanwhile. A thread that is driven by a blocking run cannot drive another one, so a
blocking run panics instead of beginning anywhere inside another blocking run.
-/

import TestTree.Script.Behaviour
import TestTree.Registration.Statement
import TestTree.Run.Runner
import TestTree.Future.Polling
import TestTree.Future.Together
import TestTree.Host

namespace TestTree

/-- Everything that a run of scripted actions is made of. -/
structure Plan where
  body : List (Statement Behaviour)
  /-- A blocking run drives itself to its end, any other is polled. -/
  blocking : Bool
  boundary : Boundary
  outlet : Outlet
  queries : List Query

namespace Plan

/-! ### Carrying out a plan -/

/-- The record of a run that came to a conclusion. -/
def record (plan : Plan) (conclusion : Conclusion Outlet OutletError) : RunRecord :=
  ⟨match conclusion.result with
    | .ok report => .reported report (plan.queries.map (Query.ask report.root))
    | .error payload => .panicked payload, conclusion.formatter⟩

/-- The runner of a plan for a suite, whose actions are driven by a blocking run or not. -/
def runner (plan : Plan) (driven : Bool) (suite : Suite Behaviour) :
    Runner (Recounted Shared) Outlet OutletError :=
  ⟨suite.scripted driven, plan.boundary, Outlet.formatter, plan.outlet⟩

/-- Poll the run of a suite as a plan says. The history of the calls belongs to this run. -/
def runPolled (plan : Plan) (driven : Bool) (suite : Suite Behaviour) : Future Shared RunRecord :=
  ((plan.runner driven suite).conduct.confine []).bind fun conclusion =>
    .ready (plan.record conclusion)

/-- The panic of a blocking run inside a blocking run. -/
def drivenTwice : Payload :=
  .text ("Cannot start a runtime from within a runtime. This happens because a function (like " ++
    "`block_on`) attempted to block the current thread while the thread is being used to drive " ++
    "asynchronous tasks. If you are in an async function, use `.await` on the future instead of " ++
    "blocking on it.")

/-- Drive the run of a suite to its end at once. Where a blocking run is driven already, nothing
of this one happens but its panic. -/
def runBlocking (plan : Plan) (driven : Bool) (suite : Suite Behaviour) :
    Future Shared RunRecord :=
  if driven then
    .send (.panicked .main drivenTwice) (.ready ⟨.panicked drivenTwice, plan.outlet⟩)
  else (plan.runPolled true suite).uninterrupted

/-- Run a registered suite as a plan says. -/
def carryOn (plan : Plan) (driven : Bool) :
    Except RegistrationError (Suite Behaviour) → Future Shared RunRecord
  | .error failure => .ready ⟨.refused failure, plan.outlet⟩
  | .ok suite =>
    if plan.blocking then plan.runBlocking driven suite else plan.runPolled driven suite

/-- Register the suite of a plan and run it, in a place where a blocking run is driven around it
or not. -/
def conduct (plan : Plan) (driven : Bool) : Future Shared RunRecord :=
  .read fun _ =>
    let session := Statement.session plan.body
    Future.sendAll (session.journal.map Signal.logged) (plan.carryOn driven session.outcome)

/-- Carry out a plan inside an action. Its record is kept when it is finished; if the run
panicked, so does the action, and nothing is kept. -/
def nested (plan : Plan) (driven : Bool) : Future Shared Unit :=
  (plan.conduct driven).bind fun record =>
    match record.ending with
    | .panicked payload => .unwind payload
    | _ => .read fun shared => .write (shared.keep record) (.ready ())

/-! ### Whole performances -/

/-- What is left when plans were carried out: the records with the numbers of polls, the shared
state, and the process. -/
structure Performance where
  records : List (RunRecord × Nat)
  shared : Shared
  host : Host

/-- Carry out plans together on an empty state, in a process with the given hook. -/
def perform (plans : List Plan) (hook : Hook) : Performance :=
  let completed :=
    (Future.together (plans.map fun plan => (plan.conduct false).counting)).complete Shared.empty
  ⟨completed.result.toOption.getD [], completed.state,
    (Host.initial hook).receiveAll completed.signals⟩

end Plan

end TestTree
