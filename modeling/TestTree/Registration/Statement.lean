/-
This file gives registration bodies as data.

A statement is a call on the current registrar, or it moves registrars between the desk and named
slots. Running a statement keeps account of it: an entry with the call, its name and its result
is written when the statement ends, so the entry of a group follows the entries of its body.
-/

import TestTree.Registration.Basic

namespace TestTree

variable {Action : Type}

/-! ### Statements -/

/-- A statement of a registration body. -/
inductive Statement (Action : Type) where
  /-- Define a group with a body. -/
  | describe (name : String) (body : List (Statement Action))
  /-- Define groups inside one another, named by a stem and a number, with a body in the last. -/
  | deep (levels : Nat) (stem : String) (body : List (Statement Action))
  /-- Register a test. -/
  | it (name : String) (action : Action)
  /-- Register a number of tests, named by a stem and a number, up to the first error. -/
  | many (count : Nat) (stem : String) (action : Action)
  /-- Set a hook. -/
  | hook (slot : HookSlot) (action : Action)
  /-- Yield an error. -/
  | fail (failure : RegistrationError)
  /-- Put the current registrar into a slot and leave a new one in its place. -/
  | take (slot : String)
  /-- Exchange the current registrar with the one in a slot, a new one if the slot is empty. -/
  | swap (slot : String)
  /-- Take the registrar out of a slot, a new one if the slot is empty, and close it. -/
  | finish (slot : String)
  /-- Run a statement and do not mind its error. -/
  | catching (statement : Statement Action)

/-- The result of a statement: it returned, it failed, or it closed a registrar with a result of
its own. -/
inductive StatementResult (Action : Type) where
  | done
  | failed (failure : RegistrationError)
  | closed (suite : Except RegistrationError (Suite Action))

/-- The account of a statement: what was called, under which name, and how it ended. -/
structure Entry (Action : Type) where
  call : String
  name : Option String
  result : StatementResult Action

/-- What statements keep on the desk: the registrars set aside in slots, and the entries. -/
structure Shelf (Action : Type) where
  slots : List (String × Registrar Action)
  entries : List (Entry Action)

namespace Shelf

/-- Nothing set aside, nothing accounted for. -/
def empty : Shelf Action := ⟨[], []⟩

/-- The registrar in a slot, a new one if the slot is empty. -/
def get (shelf : Shelf Action) (slot : String) : Registrar Action :=
  (shelf.slots.lookup slot).getD .new

/-- Empty a slot. -/
def erase (shelf : Shelf Action) (slot : String) : Shelf Action :=
  { shelf with slots := shelf.slots.filter fun entry => entry.1 != slot }

/-- Put a registrar into a slot. -/
def insert (shelf : Shelf Action) (slot : String) (registrar : Registrar Action) : Shelf Action :=
  { shelf with slots := (slot, registrar) :: (shelf.erase slot).slots }

/-- Append an entry to the account. -/
def note (shelf : Shelf Action) (entry : Entry Action) : Shelf Action :=
  { shelf with entries := shelf.entries ++ [entry] }

end Shelf

/-! ### Running statements -/

namespace Registration

/-- Change what statements keep on the desk. -/
def modifyShelf (change : Shelf Action → Shelf Action) :
    Registration (Shelf Action) Action Unit :=
  modify fun desk => { desk with extra := change desk.extra }

/-- What statements keep on the desk. -/
def shelf : Registration (Shelf Action) Action (Shelf Action) := do
  return (← get).extra

/-- Run a call and write its entry when it ends. -/
def accounted (call : String) (name : Option String)
    (registration : Registration (Shelf Action) Action Unit) :
    Registration (Shelf Action) Action Unit := do
  let result ← observe registration
  modifyShelf fun shelf => shelf.note ⟨call, name, match result with
    | .ok () => .done
    | .error failure => .failed failure⟩
  resume result

/-- Groups inside one another, numbered from the outside, with a body in the last. -/
def nested (stem : String) (body : Registration (Shelf Action) Action Unit) :
    (levels number : Nat) → Registration (Shelf Action) Action Unit
  | 0, _ => body
  | levels + 1, number => describe (stem ++ toString number) (nested stem body levels (number + 1))

/-- Tests with one action, numbered in order. -/
def repeated (stem : String) (action : Action) :
    (count number : Nat) → Registration (Shelf Action) Action Unit
  | 0, _ => pure ()
  | count + 1, number => do
    it (stem ++ toString number) action
    repeated stem action count (number + 1)

/-- Put the current registrar into a slot and place another one on the desk. -/
def exchange (slot : String) (other : Registrar Action) :
    Registration (Shelf Action) Action Unit := do
  let current ← registrar
  modifyShelf fun shelf => shelf.insert slot current
  place other

/-- Close the registrar in a slot. The account has the result; the call itself never fails. -/
def closeSlot (slot : String) : Registration (Shelf Action) Action Unit := do
  let closed := ((← shelf).get slot).finish
  modifyShelf fun shelf => (shelf.erase slot).note ⟨"finish", some slot, .closed closed⟩

end Registration

open Registration

mutual

/-- Run a statement at the desk. -/
def Statement.run : Statement Action → Registration (Shelf Action) Action Unit
  | .describe name body =>
    accounted "describe" (some name) (Registration.describe name (Statement.runAll body))
  | .deep levels stem body =>
    accounted "deep" (some stem) (nested stem (Statement.runAll body) levels 0)
  | .it name action => accounted "it" (some name) (Registration.it name action)
  | .many count stem action => accounted "many" (some stem) (repeated stem action count 0)
  | .hook slot action => accounted (hookCall slot) none (setHook slot action)
  | .fail failure => accounted "fail" none (resume (.error failure))
  | .take slot => accounted "take" (some slot) (exchange slot .new)
  | .swap slot => accounted "swap" (some slot) (do exchange slot ((← shelf).get slot))
  | .finish slot => closeSlot slot
  | .catching statement => do let _ ← observe statement.run

/-- Run the statements of a body up to the first error that is not caught. -/
def Statement.runAll : List (Statement Action) → Registration (Shelf Action) Action Unit
  | [] => pure ()
  | statement :: rest => do
    statement.run
    Statement.runAll rest

end

/-- The session of a body given as statements. -/
def Statement.session (body : List (Statement Action)) :
    Session (Shelf Action) Action :=
  Registration.session .empty (Statement.runAll body)

end TestTree
