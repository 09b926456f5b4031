/-
This file feeds events to a formatter by hand.

The formatter works on the state of a printing formatter: it is the printing one itself, or the
silent one, which leaves that state alone. Between the events the target may be changed and the
use of colors may be set anew. Each event is answered with what it alone wrote and flushed. A
panic of the formatter ends the feeding.
-/

import TestTree.Formatter.Printer
import TestTree.Sink.Faulty

namespace TestTree

/-- A step of feeding a formatter. -/
inductive FeedStep where
  | retarget (change : FaultyTarget → FaultyTarget)
  | recolor (setting : Text.Coloring)
  | event (event : Event)

/-- What one event did: whether a line written before it would have been colored, what was
written, how often the target was flushed, and the error if the event was rejected. -/
structure FeedAnswer where
  useColor : Bool
  written : List UInt8
  flushes : Nat
  error : Option IoError

namespace FeedAnswer

/-- What an event did to a printing formatter, seen from its states before and after the event. -/
def between (before after : Printer FaultyTarget) (error : Option IoError) : FeedAnswer :=
  ⟨before.useColor FaultyTarget.sink,
    after.target.written.toList.drop before.target.written.size,
    after.target.flushes - before.target.flushes, error⟩

end FeedAnswer

/-- Feed steps to a formatter in order. -/
def Formatter.feed (formatter : Formatter (Printer FaultyTarget) IoError)
    (state : Printer FaultyTarget) : List FeedStep → Except Payload (List FeedAnswer)
  | [] => .ok []
  | .retarget change :: rest =>
    formatter.feed { state with target := change state.target } rest
  | .recolor setting :: rest => formatter.feed { state with setting := setting } rest
  | .event event :: rest =>
    match formatter.react state event with
    | (after, .accepted) => (formatter.feed after rest).map (.between state after none :: ·)
    | (after, .rejected error) =>
      (formatter.feed after rest).map (.between state after (some error) :: ·)
    | (_, .panicked payload) => .error payload

end TestTree
