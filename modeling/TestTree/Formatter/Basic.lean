/-
This file defines formatters.

A run prints nothing itself. It tells a formatter of every event. The formatter keeps a state of
its own, and it accepts an event, rejects it with an error, or panics.
-/

import TestTree.Event
import TestTree.Panic.Payload

namespace TestTree

/-! ### Formatters -/

/-- What a formatter does with an event. A panic of a formatter is always raised, so the hook
hears of it. -/
inductive Reaction (Error : Type) where
  | accepted
  | rejected (error : Error)
  | panicked (payload : Payload)

/-- A formatter answers each event, in the state that the earlier events left. -/
structure Formatter (State Error : Type) where
  react : State → Event → State × Reaction Error

namespace Formatter

variable {State Error : Type}

/-- The formatter that ignores every event. -/
def silent : Formatter State Error := ⟨fun state _ => (state, .accepted)⟩

/-- What a formatter has done with a number of events: its state, the errors with which it
rejected some of them, and the payload of its panic if it panicked. -/
structure Delivery (State Error : Type) where
  state : State
  errors : List (EventKind × Error)
  panic : Option Payload

/-- Tell a formatter of an event. After a panic it is told of nothing more. -/
def deliver (formatter : Formatter State Error) (delivery : Delivery State Error)
    (event : Event) : Delivery State Error :=
  match delivery.panic with
  | some _ => delivery
  | none =>
    let (state, reaction) := formatter.react delivery.state event
    match reaction with
    | .accepted => { delivery with state := state }
    | .rejected error =>
      { delivery with state := state, errors := delivery.errors ++ [(event.kind, error)] }
    | .panicked payload => { delivery with state := state, panic := some payload }

/-- Tell a formatter of several events in order. -/
def deliverAll (formatter : Formatter State Error) (delivery : Delivery State Error)
    (events : List Event) : Delivery State Error :=
  events.foldl formatter.deliver delivery

theorem deliverAll_append (formatter : Formatter State Error) (delivery : Delivery State Error)
    (first second : List Event) :
    formatter.deliverAll delivery (first ++ second) =
      formatter.deliverAll (formatter.deliverAll delivery first) second :=
  List.foldl_append

end Formatter

end TestTree
