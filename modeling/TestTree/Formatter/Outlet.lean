/-
This file brings the formatters together.

An outlet is one of the formatters in its current state: the silent one, the printing one on a
target with planned troubles, or a recorder. It is a formatter itself, so a run can be given a
formatter that is chosen from outside.
-/

import TestTree.Formatter.Printer
import TestTree.Formatter.Recorder
import TestTree.Sink.Faulty

namespace TestTree

/-- One of the formatters. -/
inductive Outlet where
  | silent
  | printer (printer : Printer FaultyTarget)
  | recorder (recorder : Recorder)

/-- The error of an outlet: that of its target, or the message of a recorder. -/
inductive OutletError where
  | io (error : IoError)
  | message (text : String)
deriving DecidableEq

namespace Reaction

/-- A reaction with another type of errors. -/
def mapError {First Second : Type} (change : First → Second) : Reaction First → Reaction Second
  | .accepted => .accepted
  | .rejected error => .rejected (change error)
  | .panicked payload => .panicked payload

end Reaction

namespace Outlet

/-- The outlet that a run has unless another one is asked for. -/
def standard : Outlet := .printer ⟨.plain, .automatic⟩

/-- An outlet answers an event as its formatter does. -/
def react (outlet : Outlet) (event : Event) : Outlet × Reaction OutletError :=
  match outlet with
  | .silent => (.silent, .accepted)
  | .printer state =>
    let (after, reaction) := state.react FaultyTarget.sink event
    (.printer after, reaction.mapError .io)
  | .recorder state =>
    let (after, reaction) := state.react event
    (.recorder after, reaction.mapError .message)

/-- Outlets as formatters. -/
def formatter : Formatter Outlet OutletError := ⟨react⟩

/-- The bytes written by an outlet. -/
def written : Outlet → Array UInt8
  | .printer state => state.target.written
  | _ => #[]

/-- How often an outlet flushed its target. -/
def flushes : Outlet → Nat
  | .printer state => state.target.flushes
  | _ => 0

/-- The events that an outlet recorded. -/
def events : Outlet → List Event
  | .recorder state => state.events
  | _ => []
end Outlet

end TestTree
