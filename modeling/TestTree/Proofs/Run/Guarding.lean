/-
This file says what a run does with its guard, and what is left of the guards of several runs.

A run that silences the hook holds a guard from its first signal to its last. An action may install
guards as well, and it may run other suites, but it drops what it installed and nothing else. So
nobody touches the hook until the guard of the run is dropped. A run that returns its report gives
the hook back. A run that panics drops its guard while it unwinds, and its silencing layer stays
behind, one for each such run. No panic after the runs is received in another way for that.
-/

import TestTree.Proofs.Panic.Delivery
import TestTree.Proofs.Run.Call
import TestTree.Proofs.Run.Composition
import TestTree.Run.Runner

namespace TestTree

/-! ### Balanced signals -/

namespace Signal

variable {signals : List Signal} {own after : List Thread}

/-- A signal that only concerns some of the live guards leaves the other ones live. -/
theorem guards_append {signal : Signal} (guarded : signal.guards own = some after)
    (rest : List Thread) : signal.guards (own ++ rest) = some (after ++ rest) := by
  cases signal with
  | guardInstalled thread =>
    obtain rfl := Option.some.inj guarded
    rfl
  | guardReleased thread unwinding =>
    obtain ⟨member, dropped⟩ := Option.ite_none_right_eq_some.mp guarded
    obtain rfl := Option.some.inj dropped
    show (if thread ∈ own ++ rest then some ((own ++ rest).erase thread) else none) = _
    rw [if_pos (List.mem_append_left rest member), List.erase_append_left rest member]
  | panicked | logged | spanCreated | spanEntered | spanLeft =>
    obtain rfl := Option.some.inj guarded
    rfl

theorem foldlM_guards_append (signals : List Signal)
    (guarded : signals.foldlM guards own = some after) (rest : List Thread) :
    signals.foldlM guards (own ++ rest) = some (after ++ rest) := by
  induction signals generalizing own with
  | nil =>
    obtain rfl := Option.some.inj guarded
    rfl
  | cons signal others inductionHypothesis =>
    rw [List.foldlM_cons] at guarded ⊢
    obtain ⟨between, first, further⟩ := Option.bind_eq_some_iff.mp guarded
    rw [guards_append first]
    exact inductionHypothesis further

/-- These signals drop every guard that they install, and no other one. -/
def Balanced (signals : List Signal) : Prop := guardsAfter signals = some []

theorem Balanced.append {more : List Signal} (first : Balanced signals) (second : Balanced more) :
    Balanced (signals ++ more) := by
  unfold Balanced guardsAfter at *
  rw [List.foldlM_append, first]
  exact second

theorem Balanced.guarded (balanced : Balanced signals) (thread : Thread) (unwinding : Bool) :
    Balanced (.guardInstalled thread :: (signals ++ [.guardReleased thread unwinding])) := by
  have inside : signals.foldlM guards [thread] = some [thread] :=
    foldlM_guards_append signals balanced [thread]
  have dropped : (guardReleased thread unwinding).guards [thread] = some [] := by
    rw [guards, if_pos List.mem_cons_self, List.erase_cons_head]
  show (signals ++ [guardReleased thread unwinding]).foldlM guards [thread] = some []
  rw [List.foldlM_append, inside]
  show [guardReleased thread unwinding].foldlM guards [thread] = some []
  rw [List.foldlM_cons, dropped]
  rfl

end Signal

/-! ### Hooks while a guard is live -/

/-- The two routings differ in nothing but counts. -/
structure Routing.SameHooks (before after : Routing) : Prop where
  hook : after.hook = before.hook
  kept : after.kept = before.kept
  layers : after.layers = before.layers

namespace Host

variable {host : Host} {own after others : List Thread}

/-- While other guards are live, a signal that does not concern them leaves the hooks alone. -/
theorem sameHooks_receive (outside : others ≠ []) (counts : host.routing.Counts (own ++ others))
    {signal : Signal} (guarded : signal.guards own = some after) :
    (host.receive signal).routing.Counts (after ++ others) ∧
      host.routing.SameHooks (host.receive signal).routing := by
  have live : own ++ others ≠ [] := fun none => outside (List.append_eq_nil_iff.mp none).2
  rw [routing_receive]
  cases signal with
  | guardInstalled thread =>
    obtain rfl := Option.some.inj guarded
    have later := live ∘ counts.active_eq_zero_iff.mp
    obtain ⟨hook, kept⟩ := Routing.install_later later thread
    refine ⟨counts.install thread, hook, kept, ?_⟩
    exact (Routing.layers_install _ thread).trans (if_neg later)
  | guardReleased thread unwinding =>
    obtain ⟨member, dropped⟩ := Option.ite_none_right_eq_some.mp guarded
    obtain rfl := Option.some.inj dropped
    have among := List.mem_append_left others member
    have remain : (own ++ others).erase thread ≠ [] := by
      rw [List.erase_append_left others member]
      exact fun none => outside (List.append_eq_nil_iff.mp none).2
    have counted := counts.release among unwinding false
    have early := counts.release_early among remain unwinding false
    rw [List.erase_append_left others member] at counted
    refine ⟨counted, ?_⟩
    rw [Signal.reroute, early]
    exact ⟨rfl, rfl, rfl⟩
  | _ => exact ⟨Option.some.inj guarded ▸ counts, rfl, rfl, rfl⟩

theorem sameHooks_receiveAll (outside : others ≠ [])
    (counts : host.routing.Counts (own ++ others)) (signals : List Signal)
    (guarded : signals.foldlM Signal.guards own = some after) :
    (host.receiveAll signals).routing.Counts (after ++ others) ∧
      host.routing.SameHooks (host.receiveAll signals).routing := by
  induction signals generalizing host own with
  | nil =>
    obtain rfl := Option.some.inj guarded
    exact ⟨counts, rfl, rfl, rfl⟩
  | cons signal rest inductionHypothesis =>
    rw [List.foldlM_cons] at guarded
    obtain ⟨between, first, further⟩ := Option.bind_eq_some_iff.mp guarded
    obtain ⟨counted, same⟩ := sameHooks_receive outside counts first
    obtain ⟨kept, alsoSame⟩ := inductionHypothesis counted further
    exact ⟨kept, alsoSame.hook.trans same.hook, alsoSame.kept.trans same.kept,
      alsoSame.layers.trans same.layers⟩

/-- A guard around balanced signals, installed where no other one is live, gives the hook back at
its drop, unless its thread unwinds. Then its layer stays. -/
theorem receiveAll_guarded (counts : host.routing.Counts []) {signals : List Signal}
    (balanced : Signal.Balanced signals) (thread : Thread) (unwinding : Bool) :
    let left := host.receiveAll
      (.guardInstalled thread :: (signals ++ [.guardReleased thread unwinding]))
    left.routing.Counts [] ∧ left.routing.hook =
      if unwinding then .silencing (host.routing.layers + 1) host.routing.hook
      else host.routing.hook := by
  have first := counts.active_eq_zero_iff.mpr rfl
  obtain ⟨hook, kept⟩ := Routing.install_first first thread
  have guarded : (host.receive (.guardInstalled thread)).routing.Counts ([] ++ [thread]) :=
    counts.install thread
  obtain ⟨counted, same⟩ :=
    sameHooks_receiveAll (List.cons_ne_nil thread []) guarded signals balanced
  intro left
  have split : left = ((host.receive (.guardInstalled thread)).receiveAll signals).receive
      (.guardReleased thread unwinding) := by
    show (host.receive (.guardInstalled thread)).receiveAll (signals ++ [_]) = _
    rw [receiveAll_append]
    rfl
  rw [split]
  generalize (host.receive (.guardInstalled thread)).receiveAll signals = inner at counted same
  have dropped := counted.release List.mem_cons_self unwinding false
  rw [List.nil_append, List.erase_cons_head] at dropped
  refine ⟨dropped, ?_⟩
  show (inner.routing.release thread unwinding false).hook = _
  cases unwinding with
  | true =>
    rw [Routing.release_early (.inr rfl)]
    exact same.hook.trans hook
  | false =>
    have last : inner.routing.active ≤ 1 := Nat.le_of_eq counted.active_eq
    have put : (inner.routing.discount thread).kept = some host.routing.hook := same.kept.trans kept
    rw [Routing.release_last last, (Routing.restore_some put false).1]
    rfl

end Host

/-! ### Tidy computations -/

/-- Driven to its end, the future drops every guard that it installs, and no other one. -/
def Future.Tidy {State Value : Type} (future : Future State Value) : Prop :=
  ∀ state, Signal.Balanced (future.complete state).signals

namespace Future

variable {State Value Other : Type}

theorem Tidy.bind {future : Future State Value} {next : Value → Future State Other}
    (first : future.Tidy) (second : ∀ value, (next value).Tidy) : (future.bind next).Tidy := by
  intro state
  have own := first state
  rw [complete_bind]
  unfold Completed.andThen
  cases (future.complete state).result with
  | error payload => exact own
  | ok value => exact own.append (second value _)

theorem tidy_ready (value : Value) : (.ready value : Future State Value).Tidy := fun _ => rfl

theorem tidy_modify (change : State → State) : (modify change).Tidy := fun _ => rfl

/-- Spans have nothing to do with guards. -/
theorem foldlM_guards_withinSpan (name : String) (future : Future State Value) (state : State)
    (live : List Thread) :
    ((future.withinSpan name).complete state).signals.foldlM Signal.guards live =
      (future.complete state).signals.foldlM Signal.guards live := by
  induction future generalizing state live with
  | ready value => rfl
  | unwind payload => rfl
  | pending rest inductionHypothesis => exact inductionHypothesis state live
  | send signal rest inductionHypothesis =>
    simp only [withinSpan, complete, List.foldlM_cons, inductionHypothesis]
  | read step inductionHypothesis => exact inductionHypothesis state state live
  | write next rest inductionHypothesis => exact inductionHypothesis next live

theorem Tidy.withinSpan {future : Future State Value} (tidy : future.Tidy) (name : String) :
    (future.withinSpan name).Tidy :=
  fun state => (foldlM_guards_withinSpan name future state []).trans (tidy state)

end Future

/-- Called and driven to its end, the action drops every guard that it installs, and no other
one. -/
def Action.Tidy {State : Type} (action : Action State) : Prop := action.call.follow.Tidy

variable {State Kept Error : Type}

/-- A boundary sends no signals of its own. -/
theorem Boundary.signals_enclose (boundary : Boundary) (action : Action State) (state : State) :
    ((boundary.enclose action.call).follow.complete state).signals =
      (action.call.follow.complete state).signals := by
  rw [follow_enclose, Future.complete_around]

namespace Execution

open Future

theorem compositional_tidy :
    Compositional fun {_} (execution : Execution State _) => execution.Tidy where
  value := tidy_ready
  bind := Tidy.bind
  log _ _ := rfl
  countTest := tidy_modify _
  countPassed := tidy_modify _
  announce _ := tidy_modify _
  within name _ _ tidy := tidy.withinSpan name

theorem tidy_perform {action : Action State} (tidy : action.Tidy) (boundary : Boundary) :
    (perform boundary action).Tidy := by
  intro both
  unfold perform await
  rw [complete_onFirst, boundary.signals_enclose]
  exact tidy both.1

end Execution

/-! ### Runs -/

namespace Runner

/-- The future ends a run: it comes to a conclusion, sends balanced signals, and then drops the
guard of the run, unwinding exactly if the conclusion is a panic. -/
def Ends (boundary : Boundary) (future : Future State (Conclusion Kept Error)) : Prop :=
  ∀ state, ∃ signals conclusion, (future.complete state).result = .ok conclusion ∧
    Signal.Balanced signals ∧
    (future.complete state).signals = signals ++ guardDown boundary (!conclusion.result.isOk)

theorem ends_abort (boundary : Boundary) (kept : Kept) {signals : List Signal}
    (balanced : Signal.Balanced signals) (payload : Payload) :
    Ends boundary (abort boundary kept signals payload : Future State (Conclusion Kept Error)) := by
  intro state
  unfold abort
  rw [Future.complete_sendAll]
  exact ⟨signals, _, rfl, balanced, List.append_nil _⟩

theorem Ends.send {boundary : Boundary} {future : Future State (Conclusion Kept Error)}
    (ends : Ends boundary future) (record : LogRecord) :
    Ends boundary (.send (.logged record) future) := by
  intro state
  obtain ⟨signals, conclusion, result, balanced, sent⟩ := ends state
  refine ⟨.logged record :: signals, conclusion, result, balanced, ?_⟩
  exact congrArg (List.cons (.logged record)) sent

/-- What comes first belongs to the run if it is balanced and has a result. -/
theorem Ends.after {Value : Type} {boundary : Boundary} {first : Future State Value}
    {next : Value → Future State (Conclusion Kept Error)} (tidy : first.Tidy)
    (returns : ∀ state, ∃ value, (first.complete state).result = .ok value)
    (ends : ∀ value, Ends boundary (next value)) : Ends boundary (first.bind next) := by
  intro state
  obtain ⟨value, returned⟩ := returns state
  obtain ⟨signals, conclusion, result, balanced, sent⟩ := ends value (first.complete state).state
  rw [Future.complete_bind, Future.Completed.andThen, returned]
  refine ⟨_, conclusion, result, (tidy state).append balanced, ?_⟩
  rw [List.append_assoc, ← sent]

theorem ends_conclude (runner : Runner State Kept Error)
    (delivery : Formatter.Delivery Kept Error) (result : Except Payload ReportNode)
    (tally : Tally) : Ends runner.boundary (runner.conclude delivery result tally) := by
  have noted : Signal.Balanced (formatterPanic delivery.panic) := by
    cases delivery.panic <;> rfl
  cases result with
  | error payload => exact ends_abort _ _ noted payload
  | ok root =>
    unfold conclude
    cases delivery.panic with
    | some payload =>
      refine ends_abort _ _ ?_ joinFailure
      exact rfl
    | none =>
      refine Ends.send ?_ _
      cases (runner.formatter.deliver delivery (.runOutcomes (summary tally))).panic with
      | some payload =>
        refine ends_abort _ _ ?_ payload
        exact rfl
      | none =>
        intro state
        rw [Future.complete_sendAll]
        exact ⟨[], _, rfl, rfl, List.append_nil _⟩

/-- A run of tidy actions holds its guard from its first signal to its last, and drops it unwinding
exactly if it panics. -/
theorem signals_conduct (runner : Runner State Kept Error)
    (tidy : ∀ action ∈ runner.suite.root.actions, action.Tidy) (state : State) :
    ∃ signals conclusion, (runner.conduct.complete state).result = .ok conclusion ∧
      Signal.Balanced signals ∧
      (runner.conduct.complete state).signals =
        guardUp runner.boundary ++
          (signals ++ guardDown runner.boundary (!conclusion.result.isOk)) := by
  unfold conduct
  rw [Future.complete_sendAll]
  suffices ends : Ends runner.boundary _ by
    obtain ⟨signals, conclusion, result, balanced, sent⟩ := ends state
    exact ⟨signals, conclusion, result, balanced, congrArg (guardUp runner.boundary ++ ·) sent⟩
  dsimp only
  cases (runner.formatter.deliver ⟨runner.initial, [], none⟩
      (.runStart runner.suite.testCount)).panic with
  | some payload =>
    refine ends_abort _ _ ?_ payload
    exact rfl
  | none =>
    have executed : (Execution.executeGroup runner.boundary 0 runner.suite.root).Tidy :=
      Execution.compositional_tidy.executeGroup 0 runner.suite.root fun action member =>
        Execution.tidy_perform (tidy action member) runner.boundary
    refine Ends.after (fun state => ?_) (fun state => ?_) fun ended => ends_conclude runner _ _ _
    · rw [Execution.start, Future.complete_collect]
      exact executed (state, .zero)
    · rw [Execution.start, Future.complete_collect]
      exact ⟨_, rfl⟩

/-- A run of tidy actions is tidy itself, so an action may run other suites. -/
theorem tidy_conduct (runner : Runner State Kept Error)
    (tidy : ∀ action ∈ runner.suite.root.actions, action.Tidy) : runner.conduct.Tidy := by
  intro state
  obtain ⟨signals, conclusion, _, balanced, sent⟩ := runner.signals_conduct tidy state
  rw [sent, guardUp, guardDown]
  cases runner.boundary.silences with
  | true => exact balanced.guarded .main _
  | false => exact balanced.append rfl

end Runner

/-! ### Runs one after another -/

/-- The number of silencing layers of a hook. -/
def Hook.depth : Hook → Nat
  | .noting _ => 0
  | .silencing _ previous => previous.depth + 1
  | .forwarding hook => hook.depth

/-- Runs of tidy actions take place on a host one after another, each of them under a boundary that
silences the hook, and this many of them panic. -/
inductive Host.Runs : Host → Nat → Host → Prop where
  | none (host : Host) : Runs host 0 host
  | more {host between : Host} {panics : Nat} (earlier : Runs host panics between)
      {State Kept Error : Type} (runner : Runner State Kept Error)
      (silences : runner.boundary.silences = true)
      (tidy : ∀ action ∈ runner.suite.root.actions, action.Tidy) (state : State)
      (conclusion : Conclusion Kept Error)
      (concluded : (runner.conduct.complete state).result = .ok conclusion) :
      Runs host (if conclusion.result.isOk then panics else panics + 1)
        (between.receiveAll (runner.conduct.complete state).signals)

/-- Each run that panics leaves one layer behind, and a run that does not leaves nothing. Every
panic is received as before the runs. -/
theorem Host.depth_of_runs {host after : Host} {panics : Nat} (runs : host.Runs panics after)
    (counts : host.routing.Counts []) :
    after.routing.Counts [] ∧ after.routing.hook.depth = host.routing.hook.depth + panics ∧
      ∀ thread, after.routing.receive thread = host.routing.receive thread := by
  induction runs with
  | none => exact ⟨counts, rfl, fun thread => rfl⟩
  | more _ runner silences tidy state conclusion concluded inductionHypothesis =>
    obtain ⟨counted, depth, received⟩ := inductionHypothesis
    obtain ⟨signals, same, result, balanced, sent⟩ := runner.signals_conduct tidy state
    obtain rfl : conclusion = same := Except.ok.inj (concluded.symm.trans result)
    rw [sent, Runner.guardUp, Runner.guardDown, if_pos silences, if_pos silences]
    obtain ⟨left, hook⟩ := Host.receiveAll_guarded counted balanced .main (!conclusion.result.isOk)
    have unguarded : ∀ {routing : Routing} (thread : Thread), routing.Counts [] →
        routing.receive thread = routing.hook.receive 0 := by
      intro routing thread none
      rw [Routing.receive, none.held_eq, List.count_nil]
    refine ⟨left, ?_, fun thread => ?_⟩
    · refine (congrArg Hook.depth hook).trans ?_
      cases conclusion.result.isOk with
      | true => exact depth
      | false => exact congrArg (· + 1) depth
    · refine (unguarded thread left).trans (.trans ?_ (received thread))
      rw [unguarded thread counted]
      refine (congrArg (Hook.receive 0) hook).trans ?_
      cases conclusion.result.isOk with
      | true => rfl
      | false => exact if_pos rfl

/-- The layer of a run whose formatter panics at the first event. -/
example :
    let runner : Runner Unit Unit Unit :=
      ⟨⟨⟨none, [], [], .empty⟩⟩, .standard, ⟨fun kept _ => (kept, .panicked .other)⟩, ()⟩
    let left := (Host.initial (.noting "outer")).receiveAll (runner.conduct.complete ()).signals
    left.routing.hook = .silencing 1 (.noting "outer") := rfl

end TestTree
