/-
This file cuts a registration into its elementary moves.

A body calls the registrar in a nested way, and between the beginning and the end of a group it may
put any other registrar on the desk. What happens at the desk is a sequence of moves all the same:
a group is opened, a group is closed, a test or a hook goes into the current group, registrars are
taken away, exchanged and finished, and an entry is written into the account. Running a body is
replaying its moves one after another, so what every move keeps holds after every step of a body.
-/

import TestTree.Proofs.Registration.Desk

namespace TestTree

variable {Action : Type}

namespace Registration

variable {Extra : Type}

/-! ### The two halves of a group -/

/-- The beginning of a group: a new group on top of the current one. -/
def openGroup (name : String) : Registration Extra Action Unit := do
  let _ ← currentGroup "describe"
  let enclosing ← registrar
  journal (.describing name enclosing.stack.length)
  place (enclosing.push (.named name))

/-- The end of a group: the group on top becomes the last child of the one below it. -/
def closeGroup : Registration Extra Action Unit := do
  let group ← popGroup "describe"
  updateGroup "describe" fun parent => parent.addChild group

/-- A group is opened, its body runs, and then a group is closed, whatever the body did. -/
theorem describe_eq (name : String) (body : Registration Extra Action Unit) :
    describe name body = (do
      openGroup name
      let result ← observe body
      closeGroup
      resume result) := by
  simp only [describe, openGroup, closeGroup, bind_assoc]

theorem runAt_openGroup (name : String) (desk : Desk Extra Action) :
    (openGroup name).runAt desk =
      match desk.registrar.stack with
      | [] => (.error (.noCurrentGroup "describe"), desk)
      | group :: rest => (.ok (), { desk with
          registrar := ⟨.named name :: group :: rest⟩
          journal := desk.journal ++ [.describing name (rest.length + 1)] }) := by
  simp only [openGroup, runAt_bind, runAt_currentGroup, runAt_registrar, runAt_journal, runAt_place,
    andThen, Registrar.current]
  cases stack : desk.registrar.stack with
  | nil => rfl
  | cons group rest => simp only [Registrar.push, stack, List.length_cons]

theorem runAt_closeGroup (desk : Desk Extra Action) :
    closeGroup.runAt desk =
      match desk.registrar.stack with
      | [] => (.error (.noCurrentGroup "describe"), desk)
      | [_] => (.error (.noCurrentGroup "describe"), { desk with registrar := ⟨[]⟩ })
      | child :: parent :: others =>
        (.ok (), { desk with registrar := ⟨parent.addChild child :: others⟩ }) := by
  obtain ⟨⟨stack⟩, journal, extra⟩ := desk
  simp only [closeGroup, popGroup, runAt_bind, runAt_registrar, runAt_resume, runAt_place, runAt_pure,
    runAt_updateGroup, andThen, Registrar.pop]
  rcases stack with _ | ⟨child, _ | ⟨parent, others⟩⟩ <;> rfl

/-- A call that opens a group leaves the desk that closing leaves behind the body, and it returns
what the body returned if closing was possible. -/
theorem runAt_describe_halves (name : String) (body : Registration Extra Action Unit)
    (desk : Desk Extra Action) :
    (describe name body).runAt desk =
      andThen ((openGroup name).runAt desk) fun _ between =>
        andThen (closeGroup.runAt (body.runAt between).2) fun _ after =>
          ((body.runAt between).1, after) := by
  rw [describe_eq]
  simp only [runAt_bind, runAt_observe, runAt_resume, andThen]

end Registration

open Registration

/-! ### Moves -/

/-- A move at the desk. -/
inductive Move (Action : Type) where
  | opened (name : String)
  | closed
  | it (name : String) (action : Action)
  | hook (slot : HookSlot) (action : Action)
  | taken (slot : String)
  | swapped (slot : String)
  | finished (slot : String)
  | noted (call : String) (name : Option String) (result : Except RegistrationError Unit)

namespace Move

/-- What a move does at the desk. -/
def run : Move Action → Registration (Shelf Action) Action Unit
  | .opened name => openGroup name
  | .closed => closeGroup
  | .it name action => Registration.it name action
  | .hook slot action => setHook slot action
  | .taken slot => exchange slot .new
  | .swapped slot => do exchange slot ((← shelf).get slot)
  | .finished slot => closeSlot slot
  | .noted call name result => accounted call name (resume result)

/-- The desk after a move, whether the move failed or not. -/
def apply (desk : Desk (Shelf Action) Action) (move : Move Action) :
    Desk (Shelf Action) Action :=
  (move.run.runAt desk).2

/-- The desk after several moves. -/
def replay (desk : Desk (Shelf Action) Action) (moves : List (Move Action)) :
    Desk (Shelf Action) Action :=
  moves.foldl apply desk

theorem replay_append (desk : Desk (Shelf Action) Action) (first second : List (Move Action)) :
    replay desk (first ++ second) = replay (replay desk first) second := List.foldl_append

/-! ### The moves of a registration -/

/-- The moves of a registration depend on the desk that it finds. -/
abbrev Plan (Action : Type) : Type := Desk (Shelf Action) Action → List (Move Action)

/-- Running the registration is replaying these moves. -/
def Traces (registration : Registration (Shelf Action) Action Unit) (plan : Plan Action) : Prop :=
  ∀ desk, replay desk (plan desk) = (registration.runAt desk).2

/-- The moves of a group: it is opened, the moves of its body follow, and it is closed. -/
def describing (name : String) (body : Plan Action) : Plan Action := fun desk =>
  match ((openGroup name).runAt desk).1 with
  | .ok () => .opened name :: body (apply desk (.opened name)) ++ [.closed]
  | .error _ => [.opened name]

/-- The moves of a part of a body, and those of the next part unless the first fails. -/
def sequenced (first : Registration (Shelf Action) Action Unit) (plan next : Plan Action) :
    Plan Action := fun desk =>
  plan desk ++ match (first.runAt desk).1 with
    | .ok () => next (first.runAt desk).2
    | .error _ => []

/-- The moves of a call and the entry that accounts for it. -/
def accounting (call : String) (name : Option String)
    (registration : Registration (Shelf Action) Action Unit) (plan : Plan Action) : Plan Action :=
  fun desk => plan desk ++ [.noted call name (registration.runAt desk).1]

/-- The moves of groups inside one another. -/
def nesting (stem : String) (body : Plan Action) : (levels number : Nat) → Plan Action
  | 0, _ => body
  | levels + 1, number =>
    describing (stem ++ toString number) (nesting stem body levels (number + 1))

/-- The moves of tests with one action, up to the first that fails. -/
def repeating (stem : String) (action : Action) : (count number : Nat) → Plan Action
  | 0, _ => fun _ => []
  | count + 1, number =>
    sequenced (Registration.it (stem ++ toString number) action)
      (fun _ => [.it (stem ++ toString number) action]) (repeating stem action count (number + 1))

theorem traces_single {registration : Registration (Shelf Action) Action Unit}
    {move : Move Action} (same : ∀ desk, (move.run.runAt desk).2 = (registration.runAt desk).2) :
    Traces registration fun _ => [move] := same

theorem traces_describing {name : String} {body : Registration (Shelf Action) Action Unit}
    {plan : Plan Action} (traces : Traces body plan) :
    Traces (describe name body) (describing name plan) := by
  intro desk
  have entered : apply desk (.opened name) = ((openGroup name).runAt desk).2 := rfl
  rw [runAt_describe_halves, describing, andThen]
  cases ((openGroup name).runAt desk).1 with
  | error failure => rfl
  | ok _ =>
    simp only
    -- Closing finds the desk that the body leaves, and its own result does not change that desk.
    rw [List.cons_append, replay, List.foldl_cons, entered, ← replay, replay_append, traces]
    show (closeGroup.runAt _).2 = _
    rw [andThen]
    cases (closeGroup.runAt (body.runAt ((openGroup name).runAt desk).2).2).1 <;> rfl

theorem traces_sequenced {first : Registration (Shelf Action) Action Unit}
    {next : Unit → Registration (Shelf Action) Action Unit} {plan rest : Plan Action}
    (traces : Traces first plan) (continues : Traces (next ()) rest) :
    Traces (first >>= next) (sequenced first plan rest) := by
  intro desk
  rw [runAt_bind, sequenced, replay_append, traces, andThen]
  cases (first.runAt desk).1 with
  | error failure => rfl
  | ok _ => exact continues _

theorem traces_accounting {call : String} {name : Option String}
    {registration : Registration (Shelf Action) Action Unit} {plan : Plan Action}
    (traces : Traces registration plan) :
    Traces (accounted call name registration) (accounting call name registration plan) := by
  intro desk
  rw [accounting, replay_append, traces]
  rfl

theorem traces_nesting (stem : String) {body : Registration (Shelf Action) Action Unit}
    {plan : Plan Action} (traces : Traces body plan) (levels number : Nat) :
    Traces (nested stem body levels number) (nesting stem plan levels number) := by
  induction levels generalizing number with
  | zero => exact traces
  | succ levels inductionHypothesis => exact traces_describing (inductionHypothesis (number + 1))

theorem traces_repeating (stem : String) (action : Action) (count number : Nat) :
    Traces (repeated stem action count number) (repeating stem action count number) := by
  induction count generalizing number with
  | zero => exact fun _ => rfl
  | succ count inductionHypothesis =>
    exact traces_sequenced (traces_single fun _ => rfl) (inductionHypothesis (number + 1))

end Move

/-! ### The moves of statements -/

open Move

mutual

/-- The moves of a statement. -/
def Statement.moves : Statement Action → Plan Action
  | .describe name body =>
    accounting "describe" (some name) (Registration.describe name (Statement.runAll body))
      (describing name (Statement.movesAll body))
  | .deep levels stem body =>
    accounting "deep" (some stem) (nested stem (Statement.runAll body) levels 0)
      (nesting stem (Statement.movesAll body) levels 0)
  | .it name action =>
    accounting "it" (some name) (Registration.it name action) fun _ => [.it name action]
  | .many count stem action =>
    accounting "many" (some stem) (repeated stem action count 0) (repeating stem action count 0)
  | .hook slot action =>
    accounting (hookCall slot) none (setHook slot action) fun _ => [.hook slot action]
  | .fail failure => accounting "fail" none (resume (.error failure)) fun _ => []
  | .take slot => accounting "take" (some slot) (exchange slot .new) fun _ => [.taken slot]
  | .swap slot =>
    accounting "swap" (some slot) (do exchange slot ((← shelf).get slot)) fun _ => [.swapped slot]
  | .finish slot => fun _ => [.finished slot]
  | .catching statement => statement.moves

/-- The moves of a body. -/
def Statement.movesAll : List (Statement Action) → Plan Action
  | [] => fun _ => []
  | statement :: rest => sequenced statement.run statement.moves (Statement.movesAll rest)

end

mutual

/-- Running a statement is replaying its moves. -/
theorem Statement.traces_run : (statement : Statement Action) → Traces statement.run statement.moves
  | .describe _ body => by
    rw [run, moves]
    exact traces_accounting (traces_describing (Statement.traces_runAll body))
  | .deep levels stem body => by
    rw [run, moves]
    exact traces_accounting (traces_nesting stem (Statement.traces_runAll body) levels 0)
  | .it name action => by
    rw [run, moves]
    exact traces_accounting (traces_single fun _ => rfl)
  | .many count stem action => by
    rw [run, moves]
    exact traces_accounting (traces_repeating stem action count 0)
  | .hook slot action => by
    rw [run, moves]
    exact traces_accounting (traces_single fun _ => rfl)
  | .fail failure => by
    rw [run, moves]
    exact traces_accounting fun _ => rfl
  | .take slot => by
    rw [run, moves]
    exact traces_accounting (traces_single fun _ => rfl)
  | .swap slot => by
    rw [run, moves]
    exact traces_accounting (traces_single fun _ => rfl)
  | .finish slot => by
    rw [run, moves]
    exact traces_single fun _ => rfl
  | .catching statement => by
    rw [run, moves]
    exact Statement.traces_run statement

/-- Running a body is replaying its moves. -/
theorem Statement.traces_runAll : (body : List (Statement Action)) →
    Traces (Statement.runAll body) (Statement.movesAll body)
  | [] => by
    rw [runAll, movesAll]
    exact fun _ => rfl
  | statement :: rest => by
    rw [runAll, movesAll]
    exact traces_sequenced (Statement.traces_run statement) (Statement.traces_runAll rest)

end

end TestTree
