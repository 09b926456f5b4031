/-
This file exercises guards and hooks step by step.

Several threads install and drop guards under names of their own, replace the process hook, put
hooks aside and back, and panic. Each step is answered with its result and with the panics that
reached a noting hook during it.
-/

import TestTree.Host

namespace TestTree

/-! ### Steps -/

/-- What a thread does in a step. -/
inductive Maneuver where
  /-- Install a guard under a name. An older guard of that name is dropped afterwards. -/
  | install (guard : String)
  /-- Drop the guard of a name. -/
  | drop (guard : String)
  /-- Make a noting hook current. -/
  | setHook (name : String)
  /-- Put the current hook aside under a name and leave a noting one in its place. -/
  | takeHook (name : String)
  /-- Make the hook that was put aside under a name current. -/
  | putHook (name : String)
  /-- Panic. The guard of the given name belongs to what unwinds, so it is dropped on the way. -/
  | panic (panic : Panic) (guard : Option String)

/-- How a step ended. -/
inductive Maneuver.Result where
  | done
  | found (whether : Bool)
  | panicked (payload : Payload)
deriving DecidableEq

/-- The state of a drill: the host, the live guards, and the hooks put aside. -/
structure Drill where
  host : Host
  guards : List (Thread × String)
  aside : List (String × Hook)

namespace Drill

/-- A drill begins without guards and with a noting hook. -/
def initial (name : String) : Drill := ⟨.initial (.noting name), [], []⟩

/-- Send a signal to the host. -/
def send (drill : Drill) (signal : Signal) : Drill :=
  { drill with host := drill.host.receive signal }

/-- Change the routing of panics. -/
def reroute (drill : Drill) (routing : Routing) : Drill :=
  { drill with host := { drill.host with routing := routing } }

/-- Make a hook current. -/
def setHook (drill : Drill) (hook : Hook) : Drill :=
  drill.reroute (drill.host.routing.setHook hook)

/-- Whether a thread has a live guard of a name. -/
def has (drill : Drill) (thread : Thread) (guard : String) : Bool :=
  drill.guards.contains (thread, guard)

/-- Whether the layer that was installed last is among the hooks put aside. -/
def hasLayerAside (drill : Drill) : Bool :=
  drill.aside.any fun entry => entry.2.isLayer drill.host.routing.layers

/-- Drop a guard that is live. -/
def drop (drill : Drill) (thread : Thread) (guard : String) (unwinding : Bool) : Drill :=
  { drill.reroute (drill.host.routing.release thread unwinding drill.hasLayerAside) with
    guards := drill.guards.erase (thread, guard) }

/-- The name of the noting hook that stands in for a hook put aside. -/
def standIn : String := "taken"

/-- One step of a thread. -/
def step (drill : Drill) (thread : Thread) : Maneuver → Drill × Maneuver.Result
  | .install guard =>
    let installed := drill.send (.guardInstalled thread)
    let settled := if drill.has thread guard then installed.drop thread guard false else installed
    ({ settled with guards := (thread, guard) :: settled.guards }, .done)
  | .drop guard =>
    if drill.has thread guard then (drill.drop thread guard false, .found true)
    else (drill, .found false)
  | .setHook name => (drill.setHook (.noting name), .done)
  | .takeHook name =>
    let rest := drill.aside.filter fun entry => entry.1 != name
    let (taken, left) := drill.host.routing.takeHook (.noting standIn)
    ({ drill.reroute left with aside := (name, taken) :: rest }, .done)
  | .putHook name =>
    match drill.aside.lookup name with
    | none => (drill, .found false)
    | some hook =>
      ({ drill.setHook hook with aside := drill.aside.filter fun entry => entry.1 != name },
        .found true)
  | .panic panic guard =>
    let announced := (panic.signals thread).foldl send drill
    let unwound := match guard with
      | some guard =>
        if announced.has thread guard then announced.drop thread guard true else announced
      | none => announced
    (unwound, .panicked panic.payload)

/-- The steps of a drill in order: the final state, and for each step its result with the panics
heard during it. -/
def run (drill : Drill) :
    List (Thread × Maneuver) → Drill × List (Maneuver.Result × List Hearing)
  | [] => (drill, [])
  | (thread, maneuver) :: rest =>
    let (after, result) := drill.step thread maneuver
    let (final, answers) := after.run rest
    (final, (result, after.host.heard.drop drill.host.heard.length) :: answers)

end Drill

end TestTree
