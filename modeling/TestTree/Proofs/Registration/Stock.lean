/-
This file keeps track of where every group and every test of a registration is.

Two groups can look the same, and so can two tests, so it cannot be seen from registrars whether a
group is still there. A stock is what lies at a desk with a number on every group: the stack of the
current registrar, the stacks that were set aside, the suites that registrars were closed to, and
the groups that were dropped. Every move does to a stock what it does to the desk, a number is given
once and stays with its group, and a test is noted with the number of the group that it goes into.
Without the numbers a stock is the desk.
-/

import TestTree.Proofs.Registration.Shapes

namespace TestTree

variable {Action : Type}

/-! ### Numbered groups -/

/-- A group with a number. -/
structure Numbered (Action : Type) where
  number : Nat
  name : Option String
  tests : List (Test Action)
  children : List (Numbered Action)
  hooks : Hooks Action

namespace Numbered

/-- A group with nothing registered. -/
def blank (number : Nat) (name : Option String) : Numbered Action := ⟨number, name, [], [], .empty⟩

/-- Append a test to a group. -/
def addTest (group : Numbered Action) (test : Test Action) : Numbered Action :=
  { group with tests := group.tests ++ [test] }

/-- Append a child to a group. -/
def addChild (group child : Numbered Action) : Numbered Action :=
  { group with children := group.children ++ [child] }

/-- Set a hook of a group. -/
def setHook (group : Numbered Action) (slot : HookSlot) (hook : Action) : Numbered Action :=
  { group with hooks := group.hooks.set slot hook }

mutual

/-- A group without its number. -/
def plain : Numbered Action → Group Action
  | ⟨_, name, tests, children, hooks⟩ => ⟨name, tests, plainAll children, hooks⟩

/-- Several groups without their numbers. -/
def plainAll : List (Numbered Action) → List (Group Action)
  | [] => []
  | group :: rest => group.plain :: plainAll rest

end

mutual

/-- The numbers of a group and of all groups below it, each with the tests of the group. -/
def inventory : Numbered Action → List (Nat × List (Test Action))
  | ⟨number, _, tests, children, _⟩ => (number, tests) :: inventoryAll children

/-- The numbers of several groups and of all groups below them. -/
def inventoryAll : List (Numbered Action) → List (Nat × List (Test Action))
  | [] => []
  | group :: rest => group.inventory ++ inventoryAll rest

end

theorem plainAll_eq_map (groups : List (Numbered Action)) : plainAll groups = groups.map plain := by
  induction groups with
  | nil => rfl
  | cons group rest inductionHypothesis => rw [plainAll, inductionHypothesis, List.map_cons]

theorem plainAll_append (first second : List (Numbered Action)) :
    plainAll (first ++ second) = plainAll first ++ plainAll second := by
  rw [plainAll_eq_map, plainAll_eq_map, plainAll_eq_map, List.map_append]

theorem plain_addChild (group child : Numbered Action) :
    (group.addChild child).plain = group.plain.addChild child.plain := by
  obtain ⟨number, name, tests, children, hooks⟩ := group
  rw [addChild, plain, plain, plainAll_append]
  rfl

theorem plain_addTest (group : Numbered Action) (test : Test Action) :
    (group.addTest test).plain = group.plain.addTest test := by
  obtain ⟨number, name, tests, children, hooks⟩ := group
  rw [addTest, plain, plain]
  rfl

theorem plain_setHook (group : Numbered Action) (slot : HookSlot) (hook : Action) :
    (group.setHook slot hook).plain = group.plain.setHook slot hook := by
  obtain ⟨number, name, tests, children, hooks⟩ := group
  rw [setHook, plain, plain]
  rfl

theorem inventoryAll_append (first second : List (Numbered Action)) :
    inventoryAll (first ++ second) = inventoryAll first ++ inventoryAll second := by
  induction first with
  | nil => rfl
  | cons group rest inductionHypothesis =>
    rw [List.cons_append, inventoryAll, inventoryAll, inductionHypothesis, List.append_assoc]

theorem inventory_addChild (group child : Numbered Action) :
    (group.addChild child).inventory = group.inventory ++ child.inventory := by
  obtain ⟨number, name, tests, children, hooks⟩ := group
  rw [addChild, inventory, inventory, inventoryAll_append, inventoryAll, inventoryAll,
    List.append_nil, List.cons_append]

theorem inventory_eq (group : Numbered Action) :
    group.inventory = (group.number, group.tests) :: inventoryAll group.children := by
  obtain ⟨number, name, tests, children, hooks⟩ := group
  rw [inventory]

end Numbered

/-! ### Stocks -/

/-- What lies at a desk, with a number on every group. The register has every test with the number
of the group that it was registered in, and the next number is the first that was not given. -/
structure Stock (Action : Type) where
  current : List (Numbered Action)
  aside : List (String × List (Numbered Action))
  suites : List (Numbered Action)
  lost : List (Numbered Action)
  register : List (Nat × Test Action)
  next : Nat

namespace Stock

open Numbered

/-- What is left of the stacks that were set aside when a slot is emptied. -/
def without (slot : String) (aside : List (String × List (Numbered Action))) :
    List (String × List (Numbered Action)) :=
  aside.filter fun entry => entry.1 != slot

/-- The stack in a slot, which is empty if the slot is. -/
def slotStack (stock : Stock Action) (slot : String) : List (Numbered Action) :=
  (stock.aside.lookup slot).getD []

/-- Put the stack of a new registrar into a slot that is empty. -/
def furnish (stock : Stock Action) (slot : String) : Stock Action :=
  match stock.aside.lookup slot with
  | some _ => stock
  | none =>
    { stock with
      aside := (slot, [blank stock.next none]) :: stock.aside
      next := stock.next + 1 }

/-- What a move does to a stock. -/
def step (stock : Stock Action) : Move Action → Stock Action
  | .opened name =>
    match stock.current with
    | [] => stock
    | group :: rest =>
      { stock with
        current := blank stock.next (some name) :: group :: rest
        next := stock.next + 1 }
  | .closed =>
    match stock.current with
    | [] => stock
    | [only] => { stock with current := [], lost := stock.lost ++ [only] }
    | child :: parent :: others => { stock with current := parent.addChild child :: others }
  | .it name action =>
    match stock.current with
    | [] => stock
    | group :: rest =>
      { stock with
        current := group.addTest ⟨name, action⟩ :: rest
        register := stock.register ++ [(group.number, ⟨name, action⟩)] }
  | .hook slot action =>
    match stock.current with
    | [] => stock
    | group :: rest => { stock with current := group.setHook slot action :: rest }
  | .taken slot =>
    { stock with
      current := [blank stock.next none]
      aside := (slot, stock.current) :: without slot stock.aside
      lost := stock.lost ++ stock.slotStack slot
      next := stock.next + 1 }
  | .swapped slot =>
    let ready := stock.furnish slot
    { ready with
      current := ready.slotStack slot
      aside := (slot, ready.current) :: without slot ready.aside }
  | .finished slot =>
    let ready := stock.furnish slot
    let emptied := { ready with aside := without slot ready.aside }
    match (Registrar.mk (plainAll (ready.slotStack slot))).finish with
    | .ok _ => { emptied with suites := ready.suites ++ ready.slotStack slot }
    | .error _ => { emptied with lost := ready.lost ++ ready.slotStack slot }
  | .noted .. => stock

/-- What several moves do to a stock. -/
def replay (stock : Stock Action) (moves : List (Move Action)) : Stock Action :=
  moves.foldl step stock

/-- The stock that a session begins with. -/
def start : Stock Action := ⟨[blank 0 none], [], [], [], [], 1⟩

/-! ### Stocks and desks -/

/-- A stack that was set aside without its numbers. -/
def shelved (entry : String × List (Numbered Action)) : String × Registrar Action :=
  (entry.1, ⟨plainAll entry.2⟩)

/-- The suite of an entry, if a registrar was closed well. -/
def closedSuite? (entry : Entry Action) : Option (Suite Action) :=
  match entry.result with
  | .closed (.ok suite) => some suite
  | _ => none

/-- Without its numbers the stock is what lies at the desk. -/
structure Matches (stock : Stock Action) (desk : Desk (Shelf Action) Action) : Prop where
  current : desk.registrar = ⟨plainAll stock.current⟩
  aside : desk.extra.slots = stock.aside.map shelved
  suites : desk.extra.entries.filterMap closedSuite? =
    stock.suites.map fun root => ⟨root.plain⟩

theorem matches_start : (start : Stock Action).Matches Move.start := ⟨rfl, rfl, rfl⟩

theorem lookup_shelved (aside : List (String × List (Numbered Action))) (slot : String) :
    (aside.map shelved).lookup slot =
      (aside.lookup slot).map fun stack => ⟨plainAll stack⟩ := by
  induction aside with
  | nil => rfl
  | cons entry rest inductionHypothesis =>
    rw [List.map_cons, shelved, List.lookup_cons, List.lookup_cons, inductionHypothesis]
    cases slot == entry.1 <;> rfl

theorem erase_shelved (aside : List (String × List (Numbered Action))) (slot : String) :
    ((aside.map shelved).filter fun entry => entry.1 != slot) =
      (without slot aside).map shelved :=
  List.filter_map

theorem furnish_current (stock : Stock Action) (slot : String) :
    (stock.furnish slot).current = stock.current := by
  unfold furnish
  cases stock.aside.lookup slot <;> rfl

theorem furnish_suites (stock : Stock Action) (slot : String) :
    (stock.furnish slot).suites = stock.suites := by
  unfold furnish
  cases stock.aside.lookup slot <;> rfl

theorem furnish_lost (stock : Stock Action) (slot : String) :
    (stock.furnish slot).lost = stock.lost := by
  unfold furnish
  cases stock.aside.lookup slot <;> rfl

theorem furnish_register (stock : Stock Action) (slot : String) :
    (stock.furnish slot).register = stock.register := by
  unfold furnish
  cases stock.aside.lookup slot <;> rfl

/-- Once a slot is furnished, it holds what the desk takes it to hold. -/
theorem get_of_matches {stock : Stock Action} {desk : Desk (Shelf Action) Action}
    (same : stock.Matches desk) (slot : String) :
    desk.extra.get slot = ⟨plainAll ((stock.furnish slot).slotStack slot)⟩ := by
  rw [Shelf.get, same.aside, lookup_shelved, furnish, slotStack]
  cases found : stock.aside.lookup slot with
  | some stack => rw [found]; rfl
  | none =>
    rw [List.lookup_cons_self]
    rfl

theorem without_furnish (stock : Stock Action) (slot : String) :
    without slot (stock.furnish slot).aside = without slot stock.aside := by
  unfold furnish
  cases stock.aside.lookup slot with
  | some stack => rfl
  | none => exact List.filter_cons_of_neg (by simp)

/-- The current stack changes on both sides in the same way. -/
theorem Matches.change {stock : Stock Action} {desk : Desk (Shelf Action) Action}
    (same : stock.Matches desk) {current : List (Numbered Action)} (lost : List (Numbered Action))
    (register : List (Nat × Test Action)) (next : Nat) {registrar : Registrar Action}
    (journal : List LogRecord) (equal : registrar = ⟨plainAll current⟩) :
    Matches { stock with current := current, lost := lost, register := register, next := next }
      { desk with registrar := registrar, journal := journal } :=
  ⟨equal, same.aside, same.suites⟩

theorem matches_opened {stock : Stock Action} {desk : Desk (Shelf Action) Action}
    (same : stock.Matches desk) (name : String) :
    (stock.step (.opened name)).Matches (Move.apply desk (.opened name)) := by
  rw [Move.apply, Move.run, Registration.runAt_openGroup, same.current, step]
  cases stock.current with
  | nil => exact same
  | cons group rest => exact same.change _ _ _ _ rfl

theorem matches_closed {stock : Stock Action} {desk : Desk (Shelf Action) Action}
    (same : stock.Matches desk) :
    (stock.step .closed).Matches (Move.apply desk .closed) := by
  rw [Move.apply, Move.run, Registration.runAt_closeGroup, same.current, step]
  rcases stock.current with _ | ⟨child, _ | ⟨parent, others⟩⟩
  · exact same
  · exact same.change _ _ _ _ rfl
  · refine same.change _ _ _ _ ?_
    rw [plainAll, plain_addChild]

theorem matches_it {stock : Stock Action} {desk : Desk (Shelf Action) Action}
    (same : stock.Matches desk) (name : String) (action : Action) :
    (stock.step (.it name action)).Matches (Move.apply desk (.it name action)) := by
  rw [Move.apply, Move.run, Registration.runAt_it, Registration.runAt_updateGroup, same.current,
    step]
  cases empty : stock.current with
  | nil =>
    refine ⟨?_, same.aside, same.suites⟩
    rw [empty]
    rfl
  | cons group rest =>
    refine same.change _ _ _ _ ?_
    rw [plainAll, plain_addTest]

theorem matches_hook {stock : Stock Action} {desk : Desk (Shelf Action) Action}
    (same : stock.Matches desk) (slot : HookSlot) (action : Action) :
    (stock.step (.hook slot action)).Matches (Move.apply desk (.hook slot action)) := by
  rw [Move.apply, Move.run, Registration.runAt_setHook, same.current, step]
  cases stock.current with
  | nil => exact same
  | cons group rest =>
    refine same.change _ _ _ _ ?_
    rw [plainAll, plain_setHook]

theorem matches_taken {stock : Stock Action} {desk : Desk (Shelf Action) Action}
    (same : stock.Matches desk) (slot : String) :
    (stock.step (.taken slot)).Matches (Move.apply desk (.taken slot)) where
  current := rfl
  aside := by
    show (slot, desk.registrar) :: desk.extra.slots.filter _ = _
    rw [same.current, same.aside, erase_shelved]
    rfl
  suites := same.suites

theorem matches_swapped {stock : Stock Action} {desk : Desk (Shelf Action) Action}
    (same : stock.Matches desk) (slot : String) :
    (stock.step (.swapped slot)).Matches (Move.apply desk (.swapped slot)) where
  current := get_of_matches same slot
  aside := by
    show (slot, desk.registrar) :: desk.extra.slots.filter _ = List.map shelved (_ :: _)
    rw [same.current, same.aside, erase_shelved, without_furnish, List.map_cons, furnish_current]
    rfl
  suites := by
    show desk.extra.entries.filterMap closedSuite? = (stock.furnish slot).suites.map _
    rw [same.suites, furnish_suites]

/-- A registrar that closes well closes to its whole stack. -/
theorem plain_of_finish {stack : List (Numbered Action)} {suite : Suite Action}
    (shaped : Registrar.Shaped (plainAll stack))
    (finished : (Registrar.mk (plainAll stack)).finish = .ok suite) :
    ∃ root, stack = [root] ∧ suite = ⟨root.plain⟩ := by
  have regular : (Registrar.mk (plainAll stack)).Regular := Registrar.regular_of_shaped shaped
  have only : plainAll stack = [suite.root] := (regular.finish_eq_ok_iff suite).mp finished
  rcases stack with _ | ⟨root, _ | ⟨next, others⟩⟩
  · cases only
  · rw [plainAll, plainAll, List.cons.injEq] at only
    obtain ⟨suiteRoot⟩ := suite
    exact ⟨root, rfl, congrArg Suite.mk only.1.symm⟩
  · rw [plainAll, plainAll, List.cons.injEq] at only
    cases only.2

theorem matches_finished {stock : Stock Action} {desk : Desk (Shelf Action) Action}
    (same : stock.Matches desk) (sound : Registration.Sound desk) (slot : String) :
    (stock.step (.finished slot)).Matches (Move.apply desk (.finished slot)) := by
  have found := get_of_matches same slot
  have shaped := Registration.shaped_get sound slot
  rw [found] at shaped
  have aside : (desk.extra.slots.filter fun entry => entry.1 != slot) =
      (without slot (stock.furnish slot).aside).map shelved := by
    rw [same.aside, erase_shelved, without_furnish]
  have current : desk.registrar = ⟨plainAll (stock.furnish slot).current⟩ := by
    rw [same.current, furnish_current]
  have entries : (Move.apply desk (.finished slot)).extra.entries =
      desk.extra.entries ++ [⟨"finish", some slot, .closed (desk.extra.get slot).finish⟩] := rfl
  have before : desk.extra.entries.filterMap closedSuite? =
      (stock.furnish slot).suites.map fun root => ⟨root.plain⟩ := by
    rw [same.suites, furnish_suites]
  rw [step]
  simp only
  cases finished : (Registrar.mk (plainAll ((stock.furnish slot).slotStack slot))).finish with
  | error failure =>
    refine ⟨current, aside, ?_⟩
    rw [entries, found, finished, List.filterMap_append, before]
    exact List.append_nil _
  | ok suite =>
    refine ⟨current, aside, ?_⟩
    obtain ⟨root, only, rfl⟩ := plain_of_finish shaped finished
    rw [entries, found, finished, List.filterMap_append, before, only, List.map_append]
    rfl

/-- Every move does to the stock what it does to the desk. -/
theorem matches_step {stock : Stock Action} {desk : Desk (Shelf Action) Action}
    (same : stock.Matches desk) (sound : Registration.Sound desk) (move : Move Action) :
    (stock.step move).Matches (Move.apply desk move) := by
  cases move with
  | opened name => exact matches_opened same name
  | closed => exact matches_closed same
  | it name action => exact matches_it same name action
  | hook slot action => exact matches_hook same slot action
  | taken slot => exact matches_taken same slot
  | swapped slot => exact matches_swapped same slot
  | finished slot => exact matches_finished same sound slot
  | noted call name result =>
    refine ⟨same.current, same.aside, ?_⟩
    rw [Move.entries_apply, List.filterMap_append, same.suites]
    cases result <;> exact List.append_nil _

end Stock

end TestTree
