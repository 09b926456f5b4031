/-
This file tries single actions outside a run.

A trial calls an action, directly or through a boundary, and polls its future to the end. It tells
what was logged by the call itself and what was logged later, because a call may do all of the
work of an action, or only its start.
-/

import TestTree.Script.Behaviour
import TestTree.Panic.Boundary
import TestTree.Future.Polling
import TestTree.Host

namespace TestTree

/-! ### Trials -/

/-- How the trial of an action ended: with success, with a cause of failure found by a boundary,
with a message of the action where no boundary was asked, or with a panic. -/
inductive Trial.Result where
  | success
  | failed (cause : Cause)
  | complained (message : String)
  | panicked (payload : Payload)
deriving DecidableEq

/-- What a trial shows: the log of the call if the call returned, the rest of the log, the number
of polls if the future finished, the result, and the signals. -/
structure Trial where
  startLog : Option (List String)
  restLog : List String
  polls : Option Nat
  result : Trial.Result
  signals : List Signal

namespace Trial

/-- The result of an action that was called directly. -/
def Result.ofVerdict : Verdict → Result
  | .ok () => .success
  | .error message => .complained message

/-- The result of an action that was called through a boundary. -/
def Result.ofCause : Except Cause Unit → Result
  | .ok () => .success
  | .error cause => .failed cause

/-- Call an action directly, or through a boundary. -/
def call (boundary : Option Boundary) (action : Action (Recounted Shared)) :
    Immediate (Recounted Shared) (Future (Recounted Shared) Result) :=
  match boundary with
  | none => action.call.bind fun future => pure
      (future.bind fun verdict => .ready (.ofVerdict verdict))
  | some boundary => (boundary.enclose action.call).bind fun future => pure
      (future.bind fun result => .ready (.ofCause result))

/-- A state with an empty log. -/
def drain (state : Recounted Shared) : Recounted Shared := (state.1.drained, state.2)

/-- Try an action once on a state with an empty log, and leave such a state. -/
def once (boundary : Option Boundary) (action : Action (Recounted Shared))
    (state : Recounted Shared) : Trial × Recounted Shared :=
  let started := (call boundary action).run state
  match started.result with
  | .error payload =>
    (⟨none, started.state.1.log, none, .panicked payload, started.signals⟩, drain started.state)
  | .ok future =>
    let completed := future.complete (drain started.state)
    let signals := started.signals ++ completed.signals
    let trial := match completed.result with
      | .ok result => ⟨some started.state.1.log, completed.state.1.log, some completed.polls,
          result, signals⟩
      | .error payload => ⟨some started.state.1.log, completed.state.1.log, none,
          .panicked payload, signals⟩
    (trial, drain completed.state)

/-- The whole log of a trial. -/
def log (trial : Trial) : List String := trial.startLog.getD [] ++ trial.restLog

/-! ### Repeated trials -/

/-- Try an action a number of times. Each trial comes with the panics heard during it. -/
def repeatedly (boundary : Option Boundary) (action : Action (Recounted Shared)) :
    Nat → Recounted Shared → Host → List (Trial × List Hearing) × Host
  | 0, _, host => ([], host)
  | times + 1, state, host =>
    let (trial, after) := once boundary action state
    let changed := host.receiveAll trial.signals
    let (rest, final) := repeatedly boundary action times after changed
    ((trial, changed.heard.drop host.heard.length) :: rest, final)

/-- Whether a guard is held during trials: only if one is asked for and the boundary silences. -/
def guarded (boundary : Option Boundary) (asked : Bool) : Bool :=
  asked && (boundary.map Boundary.silences).getD false

/-- Try a behaviour a number of times, in a process with the given hook. -/
def series (boundary : Option Boundary) (asked : Bool) (behaviour : Behaviour) (times : Nat)
    (hook : Hook) : List (Trial × List Hearing) × Host :=
  let host := Host.initial hook
  let host :=
    if guarded boundary asked then host.receive (.guardInstalled .main) else host
  let (trials, host) :=
    repeatedly boundary (behaviour.action false 0) times (Shared.empty, []) host
  (trials,
    if guarded boundary asked then host.receive (.guardReleased .main false) else host)

end Trial

/-! ### Trying hooks -/

/-- Set a hook of a group, or look one up. -/
inductive HookStep where
  | set (slot : HookSlot) (behaviour : Behaviour)
  | get (slot : HookSlot)

namespace HookStep

/-- The hooks after a step and the action that the step yields: the one that was replaced, or the
one that was looked up. The number is for an action that is set. -/
def apply (number : Nat) (hooks : Hooks (Action (Recounted Shared))) :
    HookStep → Hooks (Action (Recounted Shared)) × Option (Action (Recounted Shared))
  | .set slot behaviour => (hooks.set slot (behaviour.action false number), hooks.get? slot)
  | .get slot => (hooks, hooks.get? slot)

/-- Do steps in order and try each action that a step yields, to see which one it is. -/
def runAll (hooks : Hooks (Action (Recounted Shared))) (state : Recounted Shared) (number : Nat) :
    List HookStep → List (Option (Action (Recounted Shared) × Trial))
  | [] => []
  | step :: rest =>
    match step.apply number hooks with
    | (hooks, none) => none :: runAll hooks state (number + 1) rest
    | (hooks, some action) =>
      let (trial, after) := Trial.once none action state
      some (action, trial) :: runAll hooks after (number + 1) rest

/-- The signals of the trials in order. -/
def signals (answers : List (Option (Action (Recounted Shared) × Trial))) : List Signal :=
  answers.flatMap fun answer => (answer.map fun tried => tried.2.signals).getD []

end HookStep

end TestTree
