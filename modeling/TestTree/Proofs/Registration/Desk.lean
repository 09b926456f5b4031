/-
This file says what each call of a registration does to the desk.

A registration is a program that may fail, and what it did before it failed stays done. Here each
call is turned into what it returns and the desk it leaves, so that a statement about bodies never
has to look into the calls again.
-/

import TestTree.Registration.Statement

namespace TestTree

namespace Registration

variable {Extra Action Value Other : Type}

/-! ### Programs at the desk -/

/-- What a part of a program returned is followed by the next part unless it is a failure. -/
def andThen (left : Except RegistrationError Value × Desk Extra Action)
    (next : Value → Desk Extra Action → Except RegistrationError Other × Desk Extra Action) :
    Except RegistrationError Other × Desk Extra Action :=
  match left.1 with
  | .ok value => next value left.2
  | .error failure => (.error failure, left.2)

theorem runAt_pure (value : Value) (desk : Desk Extra Action) :
    (pure value : Registration Extra Action Value).runAt desk = (.ok value, desk) := rfl

theorem runAt_bind (registration : Registration Extra Action Value)
    (next : Value → Registration Extra Action Other) (desk : Desk Extra Action) :
    (registration >>= next).runAt desk =
      andThen (registration.runAt desk) fun value desk => (next value).runAt desk := by
  show (ExceptT.bindCont next ((registration.runAt desk).1)).run (registration.runAt desk).2 = _
  unfold andThen
  cases (registration.runAt desk).1 <;> rfl

theorem runAt_observe (registration : Registration Extra Action Value) (desk : Desk Extra Action) :
    (observe registration).runAt desk =
      (.ok (registration.runAt desk).1, (registration.runAt desk).2) := rfl

theorem runAt_resume (result : Except RegistrationError Value) (desk : Desk Extra Action) :
    (resume result).runAt desk = (result, desk) := rfl

/-! ### Calls on the registrar -/

theorem runAt_journal (record : LogRecord) (desk : Desk Extra Action) :
    (journal record).runAt desk =
      (.ok (), { desk with journal := desk.journal ++ [record] }) := rfl

theorem runAt_place (registrar : Registrar Action) (desk : Desk Extra Action) :
    (place registrar : Registration Extra Action Unit).runAt desk =
      (.ok (), { desk with registrar := registrar }) := rfl

theorem runAt_registrar (desk : Desk Extra Action) :
    (registrar : Registration Extra Action _).runAt desk = (.ok desk.registrar, desk) := rfl

theorem runAt_currentGroup (call : String) (desk : Desk Extra Action) :
    (currentGroup call).runAt desk = (desk.registrar.current call, desk) := rfl

theorem runAt_updateGroup (call : String) (change : Group Action → Group Action)
    (desk : Desk Extra Action) :
    (updateGroup call change).runAt desk =
      match desk.registrar.stack with
      | [] => (.error (.noCurrentGroup call), desk)
      | group :: rest => (.ok (), { desk with registrar := ⟨change group :: rest⟩ }) := by
  simp only [updateGroup, runAt_bind, runAt_registrar, runAt_resume, andThen, Registrar.update]
  cases desk.registrar.stack <;> rfl

/-- Defining a group: the body runs on top of the stack, and then the group on top is appended
to the one below it, whatever the body did to the stack. -/
theorem runAt_describe (name : String) (body : Registration Extra Action Unit)
    (desk : Desk Extra Action) :
    (describe name body).runAt desk =
      match desk.registrar.stack with
      | [] => (.error (.noCurrentGroup "describe"), desk)
      | group :: rest =>
        let left := body.runAt { desk with
          registrar := ⟨.named name :: group :: rest⟩
          journal := desk.journal ++ [.describing name (rest.length + 1)] }
        match left.2.registrar.stack with
        | [] => (.error (.noCurrentGroup "describe"), left.2)
        | [_] => (.error (.noCurrentGroup "describe"), { left.2 with registrar := ⟨[]⟩ })
        | child :: parent :: others =>
          (left.1, { left.2 with registrar := ⟨parent.addChild child :: others⟩ }) := by
  simp only [describe, popGroup, runAt_bind, runAt_currentGroup, runAt_registrar, runAt_journal,
    runAt_place, runAt_observe, runAt_resume, runAt_updateGroup, runAt_pure, andThen,
    Registrar.current]
  cases stack : desk.registrar.stack with
  | nil => rfl
  | cons group rest =>
    simp only [Registrar.push, stack, List.length_cons, Registrar.pop]
    generalize body.runAt _ = left
    obtain ⟨result, ⟨⟨stack⟩, journal, extra⟩⟩ := left
    rcases stack with _ | ⟨child, _ | ⟨parent, others⟩⟩ <;> rfl

theorem runAt_it (name : String) (action : Action) (desk : Desk Extra Action) :
    (it name action).runAt desk =
      (updateGroup "it" fun group => group.addTest ⟨name, action⟩).runAt
        { desk with journal := desk.journal ++ [.registering name] } := by
  simp only [it, runAt_bind, runAt_journal, andThen]

theorem runAt_setHook (slot : HookSlot) (hook : Action) (desk : Desk Extra Action) :
    (setHook slot hook).runAt desk =
      match desk.registrar.stack with
      | [] => (.error (.noCurrentGroup (hookCall slot)), desk)
      | group :: rest => (.ok (), { desk with
          registrar := ⟨group.setHook slot hook :: rest⟩
          journal := desk.journal ++
            if (group.hooks.get? slot).isSome then [.hookReplaced group.name slot] else [] }) := by
  simp only [setHook, runAt_bind, runAt_currentGroup, runAt_updateGroup, andThen,
    Registrar.current]
  cases desk.registrar.stack with
  | nil => rfl
  | cons group rest =>
    simp only
    split
    · rfl
    · simp only [runAt_pure, List.append_nil]

end Registration

end TestTree
