/-
This file runs several futures on one thread.

Futures that run together are polled in rounds: each poll of the whole polls every future that is
not finished yet, in order, and the whole is finished when all of them are. They share the state,
so each sees what the others did between its polls.
-/

import TestTree.Future.Basic

namespace TestTree

namespace Future

variable {State Value Other Result : Type}

/-- Poll a future once inside a larger poll, and go on with what is left of it. -/
def pollThen (next : Future State Value → Future State Result) :
    Future State Value → Future State Result
  | .ready value => next (.ready value)
  | .unwind payload => .unwind payload
  | .pending rest => next rest
  | .send signal rest => .send signal (rest.pollThen next)
  | .read step => .read fun state => (step state).pollThen next
  | .write state rest => .write state (rest.pollThen next)

/-- Run two futures together. In each round the first is polled before the second, and a future
that is finished is not polled again. -/
def both : Future State Value → Future State Other → Future State (Value × Other)
  | .ready value, second => second.bind fun other => .ready (value, other)
  | .unwind payload, _ => .unwind payload
  | .pending rest, second => second.pollThen fun left => .pending (rest.both left)
  | .send signal rest, second => .send signal (rest.both second)
  | .read step, second => .read fun state => (step state).both second
  | .write state rest, second => .write state (rest.both second)

/-- Run futures together, in the order of the list within each round. -/
def together : List (Future State Value) → Future State (List Value)
  | [] => .ready []
  | future :: rest => (future.both (together rest)).bind fun pair => .ready (pair.1 :: pair.2)

end Future

end TestTree
