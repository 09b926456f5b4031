/-
This file defines actions: what a test or a hook does when it is called.

An action is asynchronous or blocking. Calling an asynchronous action runs its start and yields a
future that does the work when it is polled. Calling a blocking action does all the work at once
and yields a future that is already finished.
-/

import TestTree.Future.Immediate

namespace TestTree

/-! ### Verdicts -/

/-- An error value that an action may return, with its short text and its detailed one. -/
structure Complaint where
  short : String
  detailed : String
deriving DecidableEq

/-- An error value with one text. -/
def Complaint.plain (text : String) : Complaint := ⟨text, text⟩

/-- The error value of a failed attempt to format a value. -/
def Complaint.formatting : Complaint := .plain "an error occurred when formatting an argument"

/-- What an action reports back: success, or the message of its failure. -/
abbrev Verdict := Except String Unit

namespace Verdict

/-- An action that returns nothing always succeeds. -/
def success : Verdict := .ok ()

/-- The message of a returned error is its detailed text. -/
def ofResult (result : Except Complaint Unit) : Verdict := result.mapError Complaint.detailed

end Verdict

/-! ### Actions -/

/-- The behaviour of a test or of a hook. -/
inductive Action (State : Type) where
  | asynchronous (start : Immediate State (Future State Verdict))
  | blocking (body : Immediate State Verdict)

namespace Action

variable {State : Type}

/-- The text that stands for an action in a listing. -/
def label : Action State → String
  | .asynchronous _ => "Async(...)"
  | .blocking _ => "Blocking(...)"

/-- Call an action. A blocking action has finished when this returns, an asynchronous one has
run its start. -/
def call : Action State → Immediate State (Future State Verdict)
  | .asynchronous start => start
  | .blocking body => body.bind fun verdict => pure (.ready verdict)

end Action

end TestTree
