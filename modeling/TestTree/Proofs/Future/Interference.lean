/-
This file drives a future to its end while others work between its polls.

A future that runs alone finds at each poll the state that its last poll left. If others work on
the same state, they may have done anything to it in the meantime. What they do is given here by one
change of the state for each suspension, so a law about all such changes holds beside any company.
-/

import TestTree.Future.Completion
import TestTree.Proofs.Future.Polls

namespace TestTree

namespace Future

variable {State Value Other : Type}

/-- Poll a future until it is finished. The others change the state at each suspension, the first
time as the first of their changes says. -/
def completeAmid (others : Nat → State → State) (state : State) :
    Future State Value → Completed State Value
  | .ready value => ⟨[], state, .ok value, 0⟩
  | .unwind payload => ⟨[], state, .error payload, 0⟩
  | .pending rest =>
    let completed := rest.completeAmid (fun turn => others (turn + 1)) (others 0 state)
    { completed with suspensions := completed.suspensions + 1 }
  | .send signal rest =>
    let completed := rest.completeAmid others state
    { completed with signals := signal :: completed.signals }
  | .read step => (step state).completeAmid others state
  | .write next rest => rest.completeAmid others next

/-- A poll that suspends is followed by the first change of the others, and then by the rest. -/
theorem completeAmid_eq_poll (others : Nat → State → State) (future : Future State Value)
    (state : State) :
    future.completeAmid others state =
      let polled := future.poll state
      match polled.progress with
      | .ready value => ⟨polled.signals, polled.state, .ok value, 0⟩
      | .unwound payload => ⟨polled.signals, polled.state, .error payload, 0⟩
      | .pending rest =>
        let completed :=
          rest.completeAmid (fun turn => others (turn + 1)) (others 0 polled.state)
        ⟨polled.signals ++ completed.signals, completed.state, completed.result,
          completed.suspensions + 1⟩ := by
  induction future generalizing state with
  | ready => rfl
  | unwind => rfl
  | pending rest => rfl
  | send signal rest inductionHypothesis =>
    simp only [completeAmid, poll, inductionHypothesis state]
    cases (rest.poll state).progress <;> rfl
  | read step inductionHypothesis => exact inductionHypothesis state state
  | write next rest inductionHypothesis => exact inductionHypothesis next

/-- Others who leave the state alone make no difference. -/
theorem completeAmid_id (future : Future State Value) (state : State) :
    future.completeAmid (fun _ => id) state = future.complete state := by
  induction future generalizing state with
  | ready => rfl
  | unwind => rfl
  | pending rest inductionHypothesis =>
    simp only [completeAmid, complete, id_eq, inductionHypothesis]
  | send signal rest inductionHypothesis => simp only [completeAmid, complete, inductionHypothesis]
  | read step inductionHypothesis => exact inductionHypothesis state state
  | write next rest inductionHypothesis => exact inductionHypothesis next

/-- A caught future never unwinds, whatever others do, and all else about it stays the same. -/
theorem completeAmid_attempt (others : Nat → State → State) (future : Future State Value)
    (state : State) :
    future.attempt.completeAmid others state =
      let own := future.completeAmid others state
      ⟨own.signals, own.state, .ok own.result, own.suspensions⟩ := by
  induction future generalizing others state with
  | ready => rfl
  | unwind => rfl
  | pending rest inductionHypothesis => simp only [attempt, completeAmid, inductionHypothesis]
  | send signal rest inductionHypothesis => simp only [attempt, completeAmid, inductionHypothesis]
  | read step inductionHypothesis => exact inductionHypothesis state others state
  | write next rest inductionHypothesis => exact inductionHypothesis others next

/-- A sequence is driven through its first part, and the others go on with their turns beside the
second part. -/
theorem completeAmid_bind (others : Nat → State → State) (future : Future State Value)
    (next : Value → Future State Other) (state : State) :
    (future.bind next).completeAmid others state =
      let first := future.completeAmid others state
      first.andThen fun value left =>
        (next value).completeAmid (fun turn => others (turn + first.suspensions)) left := by
  induction future generalizing others state with
  | ready value => simp only [bind, completeAmid, Completed.andThen, List.nil_append, Nat.zero_add,
      Nat.add_zero]
  | unwind => rfl
  | pending rest inductionHypothesis =>
    simp only [bind, completeAmid, inductionHypothesis, Completed.andThen]
    cases (rest.completeAmid _ _).result with
    | error => rfl
    | ok value => simp only [Nat.add_right_comm, ← Nat.add_assoc]
  | send signal rest inductionHypothesis =>
    simp only [bind, completeAmid, inductionHypothesis, Completed.andThen]
    cases (rest.completeAmid others state).result <;> rfl
  | read step inductionHypothesis => exact inductionHypothesis state others state
  | write next rest inductionHypothesis => exact inductionHypothesis others next

/-- Turning the value of a future into another one changes the result alone. -/
theorem completeAmid_bind_ready (change : Value → Other) (others : Nat → State → State)
    (future : Future State Value) (state : State) :
    (future.bind fun value => .ready (change value)).completeAmid others state =
      let own := future.completeAmid others state
      ⟨own.signals, own.state, own.result.map change, own.suspensions⟩ := by
  rw [completeAmid_bind]
  simp only [Completed.andThen, completeAmid]
  cases (future.completeAmid others state).result with
  | error payload => rfl
  | ok value => simp only [List.append_nil, Nat.add_zero, Except.map]

/-- A computation that runs at once leaves others no turn. -/
theorem completeAmid_toFuture (others : Nat → State → State) (computation : Immediate State Value)
    (state : State) :
    computation.toFuture.completeAmid others state =
      let left := computation.run state
      ⟨left.signals, left.state, left.result, 0⟩ := by
  rw [completeAmid_eq_poll, Immediate.toFuture, poll_follow, Immediate.run_bind_pure]
  obtain ⟨signals, after, result⟩ := computation.run state
  cases result with
  | error payload => rfl
  | ok value => simp only [Except.map, poll, Polled.after, List.append_nil]

/-- A span shows in the signals alone, whatever others do. -/
theorem completeAmid_withinSpan (name : String) (others : Nat → State → State)
    (future : Future State Value) (state : State) :
    ∃ signals, (future.withinSpan name).completeAmid others state =
      (future.completeAmid others state).withSignals signals := by
  induction future generalizing others state with
  | ready => exact ⟨_, rfl⟩
  | unwind => exact ⟨_, rfl⟩
  | pending rest inductionHypothesis =>
    obtain ⟨signals, same⟩ := inductionHypothesis (fun turn => others (turn + 1)) (others 0 state)
    refine ⟨.spanLeft :: .spanEntered name :: signals, ?_⟩
    simp only [withinSpan, completeAmid, same]
    rfl
  | send signal rest inductionHypothesis =>
    obtain ⟨signals, same⟩ := inductionHypothesis others state
    refine ⟨signal :: signals, ?_⟩
    simp only [withinSpan, completeAmid, same]
    rfl
  | read step inductionHypothesis => exact inductionHypothesis state others state
  | write next rest inductionHypothesis => exact inductionHypothesis others next

/-- A future that does not know the part that is collected leaves it as it is. -/
theorem completeAmid_collect_onFirst {Part : Type} (own : Part) (others : Nat → State → State)
    (future : Future State Value) (state : State) :
    (future.onFirst.collect own).completeAmid others state =
      let alone := future.completeAmid others state
      ⟨alone.signals, alone.state, .ok (alone.result, own), alone.suspensions⟩ := by
  induction future generalizing others state with
  | ready => rfl
  | unwind => rfl
  | pending rest inductionHypothesis =>
    simp only [onFirst, collect, completeAmid, inductionHypothesis]
  | send signal rest inductionHypothesis =>
    simp only [onFirst, collect, completeAmid, inductionHypothesis]
  | read step inductionHypothesis => exact inductionHypothesis state others state
  | write next rest inductionHypothesis => exact inductionHypothesis others next

end Future

end TestTree
