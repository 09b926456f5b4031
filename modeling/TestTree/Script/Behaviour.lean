/-
This file turns scripts into actions.

A scripted action has a script for its start and one for each of its calls; calls beyond the last
script repeat that one. So an action has to know how often it was called before. The actions of a
suite are numbered for that, and the numbers of the actions that were called are kept in a
history that belongs to the run.
-/

import TestTree.Script.Step
import TestTree.Suite

namespace TestTree

/-- The numbers of the actions called so far, the latest first. -/
abbrev History := List Nat

/-- A state with the history of a run. -/
abbrev Recounted (State : Type) : Type := State × History

/-- The behaviour of an action, given by scripts. -/
structure Behaviour where
  /-- A blocking action does its work when it is called, any other when it is polled. -/
  blocking : Bool
  /-- An action that returns nothing succeeds even where its script ends with an error. -/
  quiet : Bool
  /-- The script of the start; an error ends it and is ignored. -/
  start : Script
  /-- The scripts of the calls. -/
  calls : List Script

namespace Behaviour

/-- The script of a call, by the number of calls before it. -/
def script (behaviour : Behaviour) (before : Nat) : Script :=
  (behaviour.calls[min before (behaviour.calls.length - 1)]?).getD []

/-- What an action reports for the verdict of its script. -/
def verdict (behaviour : Behaviour) (verdict : Verdict) : Verdict :=
  if behaviour.quiet then .success else verdict

/-- Note the call of an action and tell how often it was called before. -/
def recount (number : Nat) : Immediate (Recounted Shared) Nat := do
  let (_, history) ← Immediate.get
  Immediate.modify fun state => (state.1, number :: state.2)
  return history.count number

/-- What every call does at once: it is counted, and the start is run. The result is the script
of the call. -/
def begin (behaviour : Behaviour) (number : Nat) : Immediate (Recounted Shared) Script := do
  let before ← recount number
  let _ ← behaviour.start.atOnce.onFirst
  return behaviour.script before

/-- The action of a behaviour, under its number, in a place where a blocking run is driven around
it or not. -/
def action (behaviour : Behaviour) (driven : Bool) (number : Nat) : Action (Recounted Shared) :=
  if behaviour.blocking then
    .blocking do
      let script ← behaviour.begin number
      return behaviour.verdict (← script.atOnce.onFirst)
  else
    .asynchronous do
      let script ← behaviour.begin number
      return (script.future driven).onFirst.bind fun verdict => .ready (behaviour.verdict verdict)

/-- Make a behaviour the action with the next number. -/
def numbered (driven : Bool) (behaviour : Behaviour) : StateM Nat (Action (Recounted Shared)) := do
  let number ← get
  set (number + 1)
  return behaviour.action driven number

end Behaviour

/-- The suite of actions that a suite of behaviours stands for, in a place where a blocking run is
driven around it or not. -/
def Suite.scripted (suite : Suite Behaviour) (driven : Bool) : Suite (Action (Recounted Shared)) :=
  ⟨((suite.root.traverse (Behaviour.numbered driven)).run 0).1⟩

end TestTree
