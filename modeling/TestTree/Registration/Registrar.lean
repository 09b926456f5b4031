/-
This file defines the registrar, the session in which a suite is registered.

A registrar keeps a stack of the groups that are being defined. The group on top is the current
one: tests and hooks go into it. A group that is closed is taken off the stack and appended to
the children of the group below it. The session ends well when a single group is left, the root.
-/

import TestTree.Suite

namespace TestTree

/-! ### Errors -/

/-- The ways in which a registration fails. -/
inductive RegistrationError where
  /-- The named call found no group that it could apply to. -/
  | noCurrentGroup (call : String)
  /-- The session ended while this many named groups were on the stack. -/
  | unbalancedGroups (left : Nat)
deriving DecidableEq

/-- The message of a registration error. -/
def RegistrationError.message : RegistrationError → String
  | .noCurrentGroup call => call ++ " must be called within a group"
  | .unbalancedGroups left =>
    "registration finished with " ++ toString left ++ " group(s) still open"

/-! ### Registrars -/

/-- A registration session: the groups being defined, the current one first. -/
structure Registrar (Action : Type) where
  stack : List (Group Action)

namespace Registrar

variable {Action : Type}

/-- A session begins with a root group that has nothing in it. -/
def new : Registrar Action := ⟨[.root]⟩

/-- The current group, for the call that needs one. -/
def current (registrar : Registrar Action) (call : String) :
    Except RegistrationError (Group Action) :=
  match registrar.stack with
  | [] => .error (.noCurrentGroup call)
  | group :: _ => .ok group

/-- Open a group on top of the current one. -/
def push (registrar : Registrar Action) (group : Group Action) : Registrar Action :=
  ⟨group :: registrar.stack⟩

/-- Take the current group off the stack. -/
def pop (registrar : Registrar Action) (call : String) :
    Except RegistrationError (Group Action × Registrar Action) :=
  match registrar.stack with
  | [] => .error (.noCurrentGroup call)
  | group :: rest => .ok (group, ⟨rest⟩)

/-- Change the current group. -/
def update (registrar : Registrar Action) (call : String)
    (change : Group Action → Group Action) : Except RegistrationError (Registrar Action) :=
  match registrar.stack with
  | [] => .error (.noCurrentGroup call)
  | group :: rest => .ok ⟨change group :: rest⟩

/-- The number of named groups on the stack. The root is not counted. -/
def openGroups (registrar : Registrar Action) : Nat :=
  registrar.stack.countP fun group => !group.isRoot

/-- Close the session. The group on top becomes the root of the suite if no named group is left
on the stack. -/
def finish (registrar : Registrar Action) : Except RegistrationError (Suite Action) :=
  match registrar.stack with
  | [] => .error (.noCurrentGroup "finish")
  | root :: _ =>
    if registrar.openGroups = 0 then .ok ⟨root⟩
    else .error (.unbalancedGroups registrar.openGroups)

end Registrar

end TestTree
