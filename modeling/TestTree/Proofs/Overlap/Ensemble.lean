/-
This file proves that log records carry the context of their own run, whatever runs beside it.

Runs form an ensemble: they share a state and a process, and they are polled in any order. An action
can do anything on its own but write to the log of its run, and it can await other runs, one after
another or at the same time. Each run keeps its promise about what it tells as long as its polls
begin within the spans in which the ensemble was opened, and every poll ends within these spans
again, so what an ensemble tells can be sorted by runs, and each run of it has told as it promised.
-/

import Mathlib.Logic.Function.Basic
import TestTree.Proofs.Overlap.Pool
import TestTree.Proofs.Run.Context

namespace TestTree

open Future

/-! ### Actions that await runs -/

/-- The signals that an action can send on its own: it panics, it installs and drops guards, and it
registers suites. -/
def Signal.isOwn : Signal → Bool
  | .logged record => record.isRegistration
  | .panicked .. => true
  | .guardInstalled _ => true
  | .guardReleased .. => true
  | _ => false

/-- The future works on the state as it likes, and it awaits guests, in sequence or together, the
actions of which do the same. -/
inductive Future.Awaits (guests : Guest → Prop) :
    {State Value : Type} → Future State Value → Prop where
  | ready {State Value : Type} (value : Value) : Awaits guests (.ready value : Future State Value)
  | unwind {State Value : Type} (payload : Payload) :
    Awaits guests (.unwind payload : Future State Value)
  | pending {State Value : Type} {rest : Future State Value} (further : rest.Awaits guests) :
    Awaits guests (.pending rest)
  | send {State Value : Type} {signal : Signal} {rest : Future State Value}
    (own : signal.isOwn = true) (further : rest.Awaits guests) : Awaits guests (.send signal rest)
  | read {State Value : Type} {step : State → Future State Value}
    (further : ∀ state, (step state).Awaits guests) : Awaits guests (.read step)
  | write {State Value : Type} (state : State) {rest : Future State Value}
    (further : rest.Awaits guests) : Awaits guests (.write state rest)
  | run {State Kept Error : Type} {runner : Runner State Kept Error}
    (member : guests ⟨State, Kept, Error, runner⟩)
    (actions : ∀ action ∈ runner.suite.root.actions, action.call.follow.Awaits guests) :
    Awaits guests runner.conduct
  | bind {State Value Other : Type} {future : Future State Value}
    {next : Value → Future State Other} (first : future.Awaits guests)
    (second : ∀ value, (next value).Awaits guests) : Awaits guests (future.bind next)
  | both {State Value Other : Type} {future : Future State Value} {other : Future State Other}
    (first : future.Awaits guests) (second : other.Awaits guests) :
    Awaits guests (future.both other)
  | attempt {State Value : Type} {future : Future State Value} (inner : future.Awaits guests) :
    Awaits guests future.attempt
  | uninterrupted {State Value : Type} {future : Future State Value}
    (inner : future.Awaits guests) : Awaits guests future.uninterrupted
  | onFirst {State Part Value : Type} {future : Future State Value}
    (inner : future.Awaits guests) : Awaits guests (future.onFirst : Future (State × Part) Value)
  | collect {State Part Value : Type} (own : Part) {future : Future (State × Part) Value}
    (inner : future.Awaits guests) : Awaits guests (future.collect own)

variable {guests : Guest → Prop}

/-- Whatever an action sends on its own, its record is one that calls tell. -/
theorem Future.Tells.send_own {State Value : Type} {rest : Future State Value} {signal : Signal}
    {chain : List String} (tells : rest.Tells chain (.calls guests chain))
    (own : signal.isOwn = true) : (Future.send signal rest).Tells chain (.calls guests chain) := by
  cases signal with
  | logged record => exact tells_logged (tells.following_calls (.registered chain record own))
  | panicked thread payload => exact tells_panicked tells (tells.following_calls (.absorbed chain))
  | guardInstalled thread => exact tells_guardInstalled tells
  | guardReleased thread unwinding => exact tells_guardReleased tells
  | spanCreated | spanEntered | spanLeft => exact absurd own Bool.false_ne_true

/-- What a future tells that awaits guests is what calls tell, within whichever chain it runs. -/
theorem Future.Awaits.tells {State Value : Type} {future : Future State Value}
    (awaits : future.Awaits guests) (chain : List String) :
    future.Tells chain (.calls guests chain) := by
  induction awaits generalizing chain with
  | ready value => exact tells_ready_calls value
  | unwind payload => exact tells_unwind (.nothing chain)
  | pending _ inductionHypothesis => exact ⟨rfl, .nothing chain, inductionHypothesis chain⟩
  | send own _ inductionHypothesis => exact (inductionHypothesis chain).send_own own
  | read _ inductionHypothesis => exact fun state => inductionHypothesis state chain
  | write _ _ inductionHypothesis => exact inductionHypothesis chain
  | @run _ _ _ runner member _ inductionHypothesis =>
    refine (runner.tells_conduct inductionHypothesis).weaken (fun _ => .awaited member) ?_
    rintro (payload | conclusion) told tells
    · exact False.elim tells
    · exact .awaited member tells
  | bind _ _ first second => exact (first chain).bind_calls fun value => second value chain
  | both _ _ first second =>
    refine Upholds.weaken (Upholds.both (first chain) (second chain) (.nothing chain) .nil) ?_ ?_
    · rintro told ⟨_, _, one, two, interleaved⟩
      exact .mingled one two interleaved
    · rintro result told ⟨_, _, one, two, interleaved⟩
      exact .mingled one two interleaved
  | attempt _ inductionHypothesis => exact Upholds.attempt (inductionHypothesis chain)
  | uninterrupted _ inductionHypothesis =>
    exact Upholds.uninterrupted (inductionHypothesis chain) rfl
  | onFirst _ inductionHypothesis => exact Upholds.onFirst (inductionHypothesis chain)
  | collect own _ inductionHypothesis =>
    exact Upholds.collect own
      (Tells.weaken (inductionHypothesis chain) (fun _ => id) fun _ _ tells _ => tells)

/-! ### Ensembles -/

/-- Futures that are polled in one process: the state that they share, the process, how the last
poll of each of them ended, and the entries of the trace, each under the future that told it. A
future that was not polled yet waits for its first poll. -/
structure Ensemble (Index State : Type) (Value : Index → Type) where
  state : State
  host : Host
  progress : (index : Index) → Progress State (Value index)
  told : List (Index × TraceEntry)

namespace Ensemble

variable {Index State : Type} {Value : Index → Type}

/-- Nobody was polled yet. -/
def opened (futures : (index : Index) → Future State (Value index)) (state : State) (host : Host) :
    Ensemble Index State Value :=
  ⟨state, host, fun index => .pending (futures index), []⟩

/-- Each future has kept its promise so far, every entry of the trace since the start is somebody's,
and no span is entered but the outer ones. -/
structure Upholds (ensemble : Ensemble Index State Value) [DecidableEq Index] (outer : List String)
    (start : List TraceEntry) (tellings : (index : Index) → Telling (Value index)) : Prop where
  entered : ensemble.host.entered = outer.reverse
  trace : ensemble.host.trace = start ++ ensemble.told.map Prod.snd
  kept : ∀ index, (ensemble.progress index).Upholds outer (tellings index)
    (Pool.only index ensemble.told)

variable [DecidableEq Index]

/-- Poll a future once. Nothing happens if it is finished. -/
def poll (ensemble : Ensemble Index State Value) (index : Index) : Ensemble Index State Value :=
  match ensemble.progress index with
  | .ready _ => ensemble
  | .unwound _ => ensemble
  | .pending rest =>
    let polled := rest.poll ensemble.state
    { state := polled.state
      host := ensemble.host.receiveAll polled.signals
      progress := Function.update ensemble.progress index polled.progress
      told := ensemble.told ++ (ensemble.host.added polled.signals).map (Prod.mk index) }

/-- Poll futures in an order. -/
def pollAll (ensemble : Ensemble Index State Value) (order : List Index) :
    Ensemble Index State Value :=
  order.foldl poll ensemble

variable {ensemble : Ensemble Index State Value} {outer : List String} {start : List TraceEntry}
  {tellings : (index : Index) → Telling (Value index)}

/-- A poll of one future concerns no other one, and it ends within the spans in which it began. -/
theorem Upholds.poll (upholds : ensemble.Upholds outer start tellings) (chosen : Index) :
    (ensemble.poll chosen).Upholds outer start tellings := by
  have own := upholds.kept chosen
  unfold Ensemble.poll
  cases progress : ensemble.progress chosen with
  | ready value => exact upholds
  | unwound payload => exact upholds
  | pending rest =>
    rw [progress] at own
    obtain ⟨left, kept⟩ := own.2.poll ensemble.state ensemble.host upholds.entered
    refine ⟨left, ?_, fun index => ?_⟩
    · show (ensemble.host.receiveAll _).trace = _
      rw [Host.trace_receiveAll, upholds.trace, List.map_append, List.map_map, List.append_assoc]
      exact congrArg _ (congrArg _ (List.map_id _).symm)
    · show Progress.Upholds outer _ (Function.update ensemble.progress chosen _ index)
        (Pool.only index (ensemble.told ++ _))
      by_cases same : index = chosen
      · subst same
        rw [Function.update_self, Pool.only_append, Pool.only_map_self]
        exact kept
      · rw [Function.update_of_ne same, Pool.only_append, Pool.only_map_of_ne (Ne.symm same),
          List.append_nil]
        exact upholds.kept index

theorem Upholds.pollAll (upholds : ensemble.Upholds outer start tellings) (order : List Index) :
    (ensemble.pollAll order).Upholds outer start tellings := by
  induction order generalizing ensemble with
  | nil => exact upholds
  | cons index rest inductionHypothesis => exact inductionHypothesis (upholds.poll index)

end Ensemble

/-! ### Runs -/

/-- How far a future is: it is still pending, or it has ended with a value or by a panic. -/
def Future.Progress.stage {State Value : Type} :
    Progress State Value → Option (Except Payload Value)
  | .ready value => some (.ok value)
  | .unwound payload => some (.error payload)
  | .pending _ => none

/-- Whatever the order in which runs are polled, no span is left entered after any poll, and each
run has told as it promised: its groups in the order of the walk, each with one span of its own name
and depth and with all records within the chain of its own run down to it, what guests of its
actions tell within the chain of the group of the action, and its end within the outer spans. -/
theorem Runner.told_within_chains {Index State : Type} [DecidableEq Index]
    {Kept Error : Index → Type} (guests : Guest → Prop)
    (runners : (index : Index) → Runner State (Kept index) (Error index))
    (awaits : ∀ index, ∀ action ∈ (runners index).suite.root.actions,
      action.call.follow.Awaits guests)
    (state : State) (host : Host) (order : List Index) :
    let ensemble := (Ensemble.opened (fun index => (runners index).run) state host).pollAll order
    ensemble.host.entered = host.entered ∧
      ensemble.host.trace = host.trace ++ ensemble.told.map Prod.snd ∧
      ∀ index, RunTells guests host.entered.reverse (runners index)
        (ensemble.progress index).stage (Pool.only index ensemble.told) := by
  have opened : (Ensemble.opened (fun index => (runners index).run) state host).Upholds
      host.entered.reverse host.trace fun index =>
        ⟨RunTells guests host.entered.reverse (runners index) none,
          fun result => RunTells guests host.entered.reverse (runners index) (some result)⟩ :=
    ⟨(List.reverse_reverse _).symm, (List.append_nil _).symm, fun index =>
      ⟨.running (.waiting _), (runners index).tells_run fun action member chain =>
        (awaits index action member).tells chain⟩⟩
  intro ensemble
  have upholds : ensemble.Upholds _ _ _ := opened.pollAll order
  refine ⟨upholds.entered.trans (List.reverse_reverse _), upholds.trace, fun index => ?_⟩
  have kept := upholds.kept index
  cases progress : ensemble.progress index with
  | ready report =>
    rw [progress] at kept
    exact kept
  | unwound payload =>
    rw [progress] at kept
    exact kept
  | pending rest =>
    rw [progress] at kept
    exact kept.1

/-- A run that is awaited inside an action. Its only test panics at its second poll. -/
def Runner.visit : Runner Nat Unit Empty :=
  ⟨⟨⟨none, [], [⟨some "inner", [⟨"gone", .asynchronous (pure (.pending
    (.send (.panicked .main .other) (.unwind .other))))⟩], [], .empty⟩], .empty⟩⟩,
    .standard, .silent, ()⟩

/-- Two runs of one test each. The test of one awaits the visit. That of the other one panics at its
second poll, and nobody catches it. -/
def Runner.tenants : Bool → Runner Nat Unit Empty
  | false => ⟨⟨⟨none, [], [⟨some "home", [⟨"waits", .asynchronous (pure
      (visit.conduct.bind fun _ => .ready .success))⟩], [], .empty⟩], .empty⟩⟩,
      .standard, .silent, ()⟩
  | true => ⟨⟨⟨none, [⟨"lost", .asynchronous (pure (.pending
      (.send (.panicked .main (.text "lost")) (.unwind (.text "lost")))))⟩], [], .empty⟩⟩,
      .transparent, .silent, ()⟩

/-- An action that yields a future does what the future does. -/
theorem Future.Awaits.asynchronous {State : Type} {future : Future State Verdict}
    (awaits : future.Awaits guests) :
    (Action.asynchronous (pure future)).call.follow.Awaits guests :=
  .read fun state => .write state awaits

theorem Runner.awaits_tenants (index : Bool) :
    ∀ action ∈ (tenants index).suite.root.actions,
      action.call.follow.Awaits (Eq ⟨Nat, Unit, Empty, visit⟩) := by
  have panics (payload : Payload) :
      (Future.pending (.send (.panicked .main payload) (.unwind payload)) :
        Future Nat Verdict).Awaits (Eq ⟨Nat, Unit, Empty, visit⟩) :=
    .pending (.send rfl (.unwind payload))
  cases index with
  | false =>
    intro action member
    obtain rfl := List.mem_singleton.mp member
    refine .asynchronous (.bind (.run rfl fun action member => ?_) fun _ => .ready _)
    obtain rfl := List.mem_singleton.mp member
    exact .asynchronous (panics .other)
  | true =>
    intro action member
    obtain rfl := List.mem_singleton.mp member
    exact .asynchronous (panics (.text "lost"))

theorem Runner.told_within_chains_tenants :
    let ensemble := (Ensemble.opened (fun index => (tenants index).run) 0
      (.initial (.noting "outer"))).pollAll [false, true, true, false]
    ensemble.host.entered = [] ∧
      ensemble.host.trace = [.span "" 0, .span "home" 1, .record (.groupEntered 1) ["", "home"],
        .span "" 0, .span "inner" 1, .record (.groupEntered 1) ["", "home", "", "inner"],
        .span "" 0, .record .panicAbsorbed [""],
        .record .panicAbsorbed ["", "home", "", "inner"],
        .record (.testFailed "gone" ⟨.test, .panicked "non-string panic payload"⟩)
          ["", "home", "", "inner"],
        .record (.runFinished 1 0 1) ["", "home"], .record (.runFinished 1 1 0) []] ∧
      ∀ index, RunTells (Eq ⟨Nat, Unit, Empty, visit⟩) [] (tenants index)
        (ensemble.progress index).stage (Pool.only index ensemble.told) := by
  intro ensemble
  obtain ⟨entered, _, tells⟩ := @told_within_chains Bool Nat _ (fun _ => Unit) (fun _ => Empty)
    (Eq ⟨Nat, Unit, Empty, visit⟩) tenants awaits_tenants 0 (.initial (.noting "outer"))
    [false, true, true, false]
  exact ⟨entered, rfl, tells⟩

end TestTree
