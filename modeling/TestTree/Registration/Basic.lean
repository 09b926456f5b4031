/-
This file defines what the body of a registration can do.

A body works at a desk: on it are the registrar, the journal of log records, and whatever else
the caller of the body keeps there. A body may fail with a registration error, and what it did to
the desk before stays done. The body of a group is free to put another registrar on the desk, so
closing the group looks at the registrar that is there when the body returns.
-/

import TestTree.Registration.Registrar
import TestTree.Signal

namespace TestTree

/-- Where a registration takes place. -/
structure Desk (Extra Action : Type) where
  registrar : Registrar Action
  journal : List LogRecord
  extra : Extra

/-- A step of a registration: it changes the desk and may fail. -/
abbrev Registration (Extra Action : Type) : Type → Type :=
  ExceptT RegistrationError (StateM (Desk Extra Action))

namespace Registration

variable {Extra Action Value : Type}

/-! ### Working at the desk -/

/-- Run a registration at a desk. -/
def runAt (desk : Desk Extra Action) (registration : Registration Extra Action Value) :
    Except RegistrationError Value × Desk Extra Action :=
  registration.run.run desk

/-- Run a registration and look at its result, so that a failure does not go further. -/
def observe (registration : Registration Extra Action Value) :
    Registration Extra Action (Except RegistrationError Value) :=
  ExceptT.lift registration.run

/-- Take up a result that was put aside. -/
def resume (result : Except RegistrationError Value) : Registration Extra Action Value :=
  ExceptT.mk (pure result)

/-- Write a record to the journal. -/
def journal (record : LogRecord) : Registration Extra Action Unit :=
  modify fun desk => { desk with journal := desk.journal ++ [record] }

/-- Replace the registrar on the desk. -/
def place (registrar : Registrar Action) : Registration Extra Action Unit :=
  modify fun desk => { desk with registrar := registrar }

/-- The registrar on the desk. -/
def registrar : Registration Extra Action (Registrar Action) := do
  return (← get).registrar

/-- The current group, for the call that needs one. -/
def currentGroup (call : String) : Registration Extra Action (Group Action) := do
  resume ((← registrar).current call)

/-- Change the current group. -/
def updateGroup (call : String) (change : Group Action → Group Action) :
    Registration Extra Action Unit := do
  place (← resume ((← registrar).update call change))

/-- Take the current group off the stack. -/
def popGroup (call : String) : Registration Extra Action (Group Action) := do
  let (group, rest) ← resume ((← registrar).pop call)
  place rest
  return group

/-! ### The calls of a body -/

/-- Define a group. Its body runs with the group on top of the stack. Afterwards the group on top
becomes the last child of the one below it, also when the body failed, and the result of the
body is the result of the call. -/
def describe (name : String) (body : Registration Extra Action Unit) :
    Registration Extra Action Unit := do
  let _ ← currentGroup "describe"
  let enclosing ← registrar
  journal (.describing name enclosing.stack.length)
  place (enclosing.push (.named name))
  let result ← observe body
  let group ← popGroup "describe"
  updateGroup "describe" fun parent => parent.addChild group
  resume result

/-- Register a test in the current group. -/
def it (name : String) (action : Action) : Registration Extra Action Unit := do
  journal (.registering name)
  updateGroup "it" fun group => group.addTest ⟨name, action⟩

/-- The name of the call that sets a hook. -/
def hookCall : HookSlot → String
  | .beforeEach => "before_each"
  | .afterEach => "after_each"

/-- Set a hook of the current group. Replacing a hook is noted in the journal. -/
def setHook (slot : HookSlot) (hook : Action) : Registration Extra Action Unit := do
  let group ← currentGroup (hookCall slot)
  updateGroup (hookCall slot) fun group => group.setHook slot hook
  if (group.hooks.get? slot).isSome then journal (.hookReplaced group.name slot)

/-! ### Sessions -/

/-- What a registration session leaves: the result of its body, the result of closing it, the
journal, and what else was on the desk. -/
structure Session (Extra Action : Type) where
  body : Except RegistrationError Unit
  suite : Except RegistrationError (Suite Action)
  journal : List LogRecord
  extra : Extra

/-- Run a body on a new registrar and close the session whatever the body returned. -/
def session (extra : Extra) (body : Registration Extra Action Unit) : Session Extra Action :=
  let (result, desk) := body.runAt ⟨.new, [], extra⟩
  ⟨result, desk.registrar.finish, desk.journal, desk.extra⟩

/-- The suite of a session, unless its body failed. The error of the body comes first. -/
def Session.outcome (session : Session Extra Action) : Except RegistrationError (Suite Action) :=
  match session.body with
  | .error failure => .error failure
  | .ok () => session.suite

end Registration

end TestTree
