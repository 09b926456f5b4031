/-
This file defines the state that scripted actions share.

Actions write to one log, change the variables of one store, and leave the records of the runs
that they awaited. All runs that are carried out together see the same state.
-/

import TestTree.Formatter.Outlet
import TestTree.Registration.Registrar
import TestTree.Report

namespace TestTree

/-! ### Records of runs -/

/-- How a run ended, as far as its record says: it was refused by the registration, it panicked,
or it reported, with the answers to the questions that were asked. -/
inductive Ending where
  | refused (failure : RegistrationError)
  | panicked (payload : Payload)
  | reported (report : Report OutletError) (answers : List Answer)

/-- The record of a run: how it ended, and the outlet as the run left it. -/
structure RunRecord where
  ending : Ending
  outlet : Outlet

/-! ### The shared state -/

/-- What scripts share: a log, integer variables, and the records of the runs that were awaited
by scripts. -/
structure Shared where
  log : List String
  values : List (String × Int)
  inner : List RunRecord

namespace Shared

/-- Nothing logged, no variables, no runs. -/
def empty : Shared := ⟨[], [], []⟩

/-- The value of a variable; one that was never changed is zero. -/
def value (shared : Shared) (name : String) : Int :=
  (shared.values.lookup name).getD 0

/-- Append a text to the log. -/
def note (shared : Shared) (text : String) : Shared :=
  { shared with log := shared.log ++ [text] }

/-- Add to a variable. -/
def add (shared : Shared) (name : String) (amount : Int) : Shared :=
  { shared with values := (name, shared.value name + amount) ::
      shared.values.filter fun entry => entry.1 != name }

/-- Append the record of a run. -/
def keep (shared : Shared) (record : RunRecord) : Shared :=
  { shared with inner := shared.inner ++ [record] }

/-- Empty the log. -/
def drained (shared : Shared) : Shared := { shared with log := [] }

end Shared

end TestTree
