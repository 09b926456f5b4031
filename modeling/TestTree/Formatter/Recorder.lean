/-
This file defines a formatter that records.

A recorder keeps every event it is told of. The events are numbered from zero, and at chosen
numbers it answers with an error or panics, after it has kept the event.
-/

import TestTree.Formatter.Basic

namespace TestTree

/-- The state of a recorder: the numbers of the events it rejects, the numbers of the events it
panics at, and the events it was told of. -/
structure Recorder where
  rejects : List Nat
  panics : List Nat
  events : List Event

namespace Recorder

/-- Keep an event, and panic or reject it if its number says so. A number that is in both lists
makes the recorder panic. -/
def react (recorder : Recorder) (event : Event) : Recorder × Reaction String :=
  let number := recorder.events.length
  let kept := { recorder with events := recorder.events ++ [event] }
  if recorder.panics.contains number then
    (kept, .panicked (.text ("formatter panicked at event " ++ toString number)))
  else if recorder.rejects.contains number then
    (kept, .rejected ("event " ++ toString number ++ " rejected"))
  else (kept, .accepted)

/-- The recorder as a formatter. -/
def formatter : Formatter Recorder String := ⟨react⟩

end Recorder

end TestTree
