/-
This file defines scripts, a small language for the behaviour of actions.

A script is a list of steps. It writes to a log that all actions share, changes and checks shared
variables, returns, fails, panics, suspends, and awaits other runs. A script can be run at once,
and then the steps that would have to wait are passed over, or it can be a future.
-/

import TestTree.Action
import TestTree.Script.Shared

namespace TestTree

/-! ### Steps -/

/-- A step of a script. -/
inductive Step where
  /-- Append a text to the log. -/
  | log (text : String)
  /-- Add to a variable. -/
  | add (name : String) (amount : Int)
  /-- Panic unless a variable has a value. -/
  | check (name : String) (expected : Int)
  /-- Panic unless two numbers are equal. -/
  | compare (left right : Int)
  /-- End the script with an error. -/
  | fail (complaint : Complaint)
  /-- End the script with success. -/
  | succeed
  /-- Suspend a number of times. -/
  | suspend (times : Nat)
  /-- Wait for something else. It is told whether a blocking run is driven around it. -/
  | await (other : Bool → Future Shared Unit)
  /-- Panic. -/
  | panic (panic : Panic)

/-- The message of a failed check of a variable. -/
def checkMessage (name : String) (value expected : Int) : String :=
  name ++ " is " ++ toString value ++ ", expected " ++ toString expected

/-- The message of a failed comparison. -/
def compareMessage (left right : Int) : String :=
  "assertion `left == right` failed\n  left: " ++ toString left ++ "\n right: " ++ toString right

/-- Do a step at once. The result is the verdict if the step ends the script. Steps that wait do
nothing. -/
def Step.perform : Step → Immediate Shared (Option Verdict)
  | .log text => do
    Immediate.modify fun shared => shared.note text
    return none
  | .add name amount => do
    Immediate.modify fun shared => shared.add name amount
    return none
  | .check name expected => do
    let value := (← Immediate.get).value name
    if value = expected then return none
    else Immediate.panic (.raised (.text (checkMessage name value expected)))
  | .compare left right =>
    if left = right then return none
    else Immediate.panic (.raised (.text (compareMessage left right)))
  | .fail complaint => return some (.ofResult (.error complaint))
  | .succeed => return some .success
  | .suspend _ => return none
  | .await _ => return none
  | .panic cause => Immediate.panic cause

/-! ### Scripts -/

/-- Steps that are done in order, up to the first that ends the script. -/
abbrev Script := List Step

namespace Script

/-- Run a script at once, passing over the steps that wait. -/
def atOnce : Script → Immediate Shared Verdict
  | [] => return .success
  | step :: rest => do
    match ← step.perform with
    | some verdict => return verdict
    | none => atOnce rest

/-- A script as a future. What it waits for is told whether a blocking run is driven around it. -/
def future (driven : Bool) : Script → Future Shared Verdict
  | [] => .ready .success
  | .suspend times :: rest => (Future.suspend times).bind fun _ => future driven rest
  | .await other :: rest => (other driven).bind fun _ => future driven rest
  | step :: rest => step.perform.toFuture.bind fun
    | some verdict => .ready verdict
    | none => future driven rest

end Script

end TestTree
