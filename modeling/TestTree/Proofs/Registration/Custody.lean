/-
This file proves that no test is lost or doubled while it is registered.

Bodies may put any registrar in the place of the one they were given, so the group that is closed
need not be the group that was opened. The invariant is therefore about all stacks together: every
group is in exactly one place, and it has exactly the tests that were registered in it, in order.
A move that neither opens a group nor registers a test only carries groups from one place to
another. Groups are dropped in three cases only, and in each of them the one who made the move was
told or did it on purpose: a group was closed with no other group on the stack, a registrar was
finished with groups still open or with none, or a slot was used again while a registrar was in it.
-/

import TestTree.Proofs.Registration.Stock

namespace TestTree

variable {Action : Type}

/-! ### Custody -/

/-- The groups in an inventory hold the tests in a register: every group is there once and has the
tests that were registered in it, in the order of the register, and every registered test is
there once. Numbers from a certain one on were not given yet. -/
structure Custody (inventory : List (Nat × List (Test Action)))
    (register : List (Nat × Test Action)) (next : Nat) : Prop where
  distinct : (inventory.map Prod.fst).Nodup
  below : ∀ group ∈ inventory, group.1 < next
  placed : ∀ entry ∈ register, entry.1 ∈ inventory.map Prod.fst
  contents : ∀ group ∈ inventory,
    group.2 = (register.filter fun entry => entry.1 == group.1).map Prod.snd
  once : (inventory.flatMap fun group => group.2.map (group.1, ·)).Perm register

namespace Custody

variable {inventory other : List (Nat × List (Test Action))}
  {register : List (Nat × Test Action)} {next : Nat}

/-- It does not matter where the groups are. -/
theorem of_perm (custody : Custody inventory register next) (perm : other.Perm inventory) :
    Custody other register next where
  distinct := (perm.map Prod.fst).nodup_iff.mpr custody.distinct
  below group member := custody.below group (perm.mem_iff.mp member)
  placed entry member := (perm.map Prod.fst).mem_iff.mpr (custody.placed entry member)
  contents group member := custody.contents group (perm.mem_iff.mp member)
  once := (perm.flatMap_right _).trans custody.once

/-- A new group gets a number that was not given before, so nothing was registered in it. -/
theorem add (custody : Custody inventory register next) :
    Custody ((next, []) :: inventory) register (next + 1) where
  distinct := by
    rw [List.map_cons]
    refine List.nodup_cons.mpr ⟨fun member => ?_, custody.distinct⟩
    obtain ⟨group, groupMember, same⟩ := List.mem_map.mp member
    have less := custody.below group groupMember
    rw [same] at less
    exact Nat.lt_irrefl next less
  below := List.forall_mem_cons.mpr
    ⟨Nat.lt_succ_self next, fun group member => Nat.lt_succ_of_lt (custody.below group member)⟩
  placed entry member := List.mem_cons_of_mem next (custody.placed entry member)
  contents := by
    refine List.forall_mem_cons.mpr ⟨?_, custody.contents⟩
    have fresh : (register.filter fun entry => entry.1 == next) = [] := by
      refine List.filter_eq_nil_iff.mpr fun entry member same => ?_
      obtain ⟨group, groupMember, number⟩ := List.mem_map.mp (custody.placed entry member)
      have less := custody.below group groupMember
      rw [number, beq_iff_eq.mp same] at less
      exact Nat.lt_irrefl next less
    rw [fresh]
    rfl
  once := custody.once

/-- A test goes behind the other tests of its group. -/
theorem enter {number : Nat} {tests : List (Test Action)}
    (custody : Custody ((number, tests) :: inventory) register next) (test : Test Action) :
    Custody ((number, tests ++ [test]) :: inventory) (register ++ [(number, test)]) next where
  distinct := custody.distinct
  below := by
    obtain ⟨own, others⟩ := List.forall_mem_cons.mp custody.below
    exact List.forall_mem_cons.mpr ⟨own, others⟩
  placed := List.forall_mem_append.mpr ⟨custody.placed, fun entry member =>
    List.mem_singleton.mp member ▸ List.mem_cons_self⟩
  contents := by
    obtain ⟨own, others⟩ := List.forall_mem_cons.mp custody.contents
    refine List.forall_mem_cons.mpr ⟨?_, fun group member => ?_⟩
    · have kept : ([(number, test)].filter fun entry => entry.1 == number) = [(number, test)] :=
        List.filter_cons_of_pos (beq_self_eq_true number)
      rw [List.filter_append, kept, List.map_append, ← own]
      rfl
    · have other : number ≠ group.1 := fun same =>
        (List.nodup_cons.mp custody.distinct).1 (List.mem_map.mpr ⟨group, member, same.symm⟩)
      have skipped : ([(number, test)].filter fun entry => entry.1 == group.1) = [] :=
        List.filter_cons_of_neg fun same => other (beq_iff_eq.mp same)
      rw [List.filter_append, skipped, List.append_nil]
      exact others group member
  once := by
    have before := custody.once
    rw [List.flatMap_cons] at before ⊢
    rw [List.map_append, List.append_assoc]
    refine (List.perm_append_comm.append_left _).trans ?_
    rw [← List.append_assoc]
    exact before.append_right _

end Custody

/-! ### Where the groups are -/

namespace Stock

open Numbered

/-- The groups that were set aside. -/
def asideInventory (aside : List (String × List (Numbered Action))) :
    List (Nat × List (Test Action)) :=
  aside.flatMap fun entry => inventoryAll entry.2

/-- The groups of all registrars and of all suites. -/
def held (stock : Stock Action) : List (Nat × List (Test Action)) :=
  inventoryAll stock.current ++ asideInventory stock.aside ++ inventoryAll stock.suites

/-- All groups that there ever were. -/
def inventory (stock : Stock Action) : List (Nat × List (Test Action)) :=
  stock.held ++ inventoryAll stock.lost

/-- No slot has two registrars, and the groups hold the tests that were registered. -/
structure Kept (stock : Stock Action) : Prop where
  slots : (stock.aside.map Prod.fst).Nodup
  custody : Custody stock.inventory stock.register stock.next

theorem not_mem_without (slot : String) (aside : List (String × List (Numbered Action))) :
    slot ∉ (without slot aside).map Prod.fst := by
  intro member
  obtain ⟨entry, entryMember, same⟩ := List.mem_map.mp member
  have different := (List.mem_filter.mp entryMember).2
  rw [same] at different
  exact absurd different (by simp)

theorem nodup_without {aside : List (String × List (Numbered Action))} (slot : String)
    (slots : (aside.map Prod.fst).Nodup) : ((without slot aside).map Prod.fst).Nodup :=
  slots.sublist (List.filter_sublist.map Prod.fst)

theorem without_eq_self {aside : List (String × List (Numbered Action))} {slot : String}
    (free : slot ∉ aside.map Prod.fst) : without slot aside = aside :=
  List.filter_eq_self.mpr fun entry member => bne_iff_ne.mpr fun same =>
    free (List.mem_map.mpr ⟨entry, member, same⟩)

theorem free_of_lookup_eq_none {aside : List (String × List (Numbered Action))} {slot : String}
    (missing : aside.lookup slot = none) : slot ∉ aside.map Prod.fst := by
  intro member
  obtain ⟨entry, entryMember, same⟩ := List.mem_map.mp member
  exact bne_iff_ne.mp (List.lookup_eq_none_iff.mp missing entry entryMember) same.symm

/-- Emptying a slot takes out the groups that were in it. -/
theorem asideInventory_perm {aside : List (String × List (Numbered Action))} (slot : String)
    (slots : (aside.map Prod.fst).Nodup) :
    (asideInventory aside).Perm
      (inventoryAll ((aside.lookup slot).getD []) ++ asideInventory (without slot aside)) := by
  induction aside with
  | nil => exact .refl _
  | cons entry rest inductionHypothesis =>
    obtain ⟨key, stack⟩ := entry
    obtain ⟨free, others⟩ := List.nodup_cons.mp slots
    by_cases same : slot = key
    · subst same
      have left : without slot ((slot, stack) :: rest) = rest :=
        (List.filter_cons_of_neg (by simp)).trans (without_eq_self free)
      rw [List.lookup_cons_self, left]
      exact .refl _
    · have left : without slot ((key, stack) :: rest) = (key, stack) :: without slot rest :=
        List.filter_cons_of_pos (bne_iff_ne.mpr (Ne.symm same))
      rw [List.lookup_cons, beq_false_of_ne same, left]
      refine ((inductionHypothesis others).append_left (inventoryAll stack)).trans ?_
      show (inventoryAll stack ++ (_ ++ asideInventory (without slot rest))).Perm
        (_ ++ (inventoryAll stack ++ asideInventory (without slot rest)))
      rw [← List.append_assoc, ← List.append_assoc]
      exact List.perm_append_comm.append_right _

/-! ### Every move keeps the tests -/

theorem kept_start : (start : Stock Action).Kept where
  slots := List.nodup_nil
  custody :=
    { distinct := List.nodup_cons.mpr ⟨List.not_mem_nil, List.nodup_nil⟩
      below := fun _ member => List.mem_singleton.mp member ▸ Nat.zero_lt_one
      placed := fun _ member => absurd member List.not_mem_nil
      contents := fun _ member => List.mem_singleton.mp member ▸ rfl
      once := .nil }

/-- A slot gets a new registrar, so that it has one. -/
theorem kept_furnish {stock : Stock Action} (kept : stock.Kept) (slot : String) :
    (stock.furnish slot).Kept := by
  unfold furnish
  cases missing : stock.aside.lookup slot with
  | some stack => exact kept
  | none =>
    refine ⟨List.nodup_cons.mpr ⟨free_of_lookup_eq_none missing, kept.slots⟩, ?_⟩
    refine kept.custody.add.of_perm ?_
    show (inventoryAll stock.current ++ ((stock.next, []) :: asideInventory stock.aside) ++
      inventoryAll stock.suites ++ inventoryAll stock.lost).Perm _
    rw [List.append_assoc, List.append_assoc, List.cons_append]
    refine List.perm_middle.trans ?_
    rw [← List.append_assoc, ← List.append_assoc]
    exact .refl _

/-- Groups that were carried to other places are kept. -/
theorem Kept.carry {stock moved : Stock Action} (kept : stock.Kept)
    (slots : (moved.aside.map Prod.fst).Nodup) (register : moved.register = stock.register)
    (next : moved.next = stock.next) (perm : moved.inventory.Perm stock.inventory) :
    moved.Kept := by
  refine ⟨slots, ?_⟩
  rw [register, next]
  exact kept.custody.of_perm perm

theorem kept_opened {stock : Stock Action} (kept : stock.Kept) (name : String) :
    (stock.step (.opened name)).Kept := by
  rw [step]
  cases current : stock.current with
  | nil => exact kept
  | cons group rest =>
    refine ⟨kept.slots, ?_⟩
    have added := kept.custody.add
    rw [inventory, held, current] at added
    exact added

theorem kept_closed {stock : Stock Action} (kept : stock.Kept) : (stock.step .closed).Kept := by
  classical
  rw [step]
  rcases current : stock.current with _ | ⟨child, _ | ⟨parent, others⟩⟩
  · exact kept
  · refine kept.carry kept.slots rfl rfl (List.perm_iff_count.mpr fun entry => ?_)
    simp only [inventory, held, current, inventoryAll, inventoryAll_append, List.count_append,
      List.count_nil]
    omega
  · refine kept.carry kept.slots rfl rfl (List.perm_iff_count.mpr fun entry => ?_)
    simp only [inventory, held, current, inventoryAll, inventory_addChild, List.count_append]
    omega

theorem kept_it {stock : Stock Action} (kept : stock.Kept) (name : String) (action : Action) :
    (stock.step (.it name action)).Kept := by
  rw [step]
  cases current : stock.current with
  | nil => exact kept
  | cons group rest =>
    refine ⟨kept.slots, ?_⟩
    have before := kept.custody
    rw [inventory, held, current, inventoryAll, inventory_eq] at before
    exact before.enter ⟨name, action⟩

theorem kept_hook {stock : Stock Action} (kept : stock.Kept) (slot : HookSlot) (action : Action) :
    (stock.step (.hook slot action)).Kept := by
  rw [step]
  cases current : stock.current with
  | nil => exact kept
  | cons group rest =>
    refine kept.carry kept.slots rfl rfl ?_
    rw [inventory, held, inventory, held, current, inventoryAll, inventoryAll, inventory_eq,
      inventory_eq]
    exact .refl _

theorem kept_taken {stock : Stock Action} (kept : stock.Kept) (slot : String) :
    (stock.step (.taken slot)).Kept := by
  classical
  refine ⟨List.nodup_cons.mpr ⟨not_mem_without slot _, nodup_without slot kept.slots⟩, ?_⟩
  refine kept.custody.add.of_perm (List.perm_iff_count.mpr fun entry => ?_)
  have emptied := (asideInventory_perm slot kept.slots).count_eq entry
  simp only [List.count_append] at emptied
  simp only [step, inventory, held, slotStack, inventoryAll, inventory_eq, blank, asideInventory,
    List.flatMap_cons, inventoryAll_append, List.count_append, List.count_cons, List.count_nil] at *
  omega

theorem kept_swapped {stock : Stock Action} (kept : stock.Kept) (slot : String) :
    (stock.step (.swapped slot)).Kept := by
  classical
  have ready := kept_furnish kept slot
  rw [step]
  refine ready.carry
    (List.nodup_cons.mpr ⟨not_mem_without slot _, nodup_without slot ready.slots⟩) rfl rfl
    (List.perm_iff_count.mpr fun entry => ?_)
  have emptied := (asideInventory_perm slot ready.slots).count_eq entry
  simp only [inventory, held, slotStack, asideInventory, List.flatMap_cons,
    List.count_append] at *
  omega

theorem kept_finished {stock : Stock Action} (kept : stock.Kept) (slot : String) :
    (stock.step (.finished slot)).Kept := by
  classical
  have ready := kept_furnish kept slot
  have slots := nodup_without slot ready.slots
  have emptied := (asideInventory_perm slot ready.slots).count_eq
  simp only [List.count_append] at emptied
  rw [step]
  simp only
  -- The stack in the slot goes to the suites or to the groups that are dropped.
  cases (Registrar.mk (plainAll ((stock.furnish slot).slotStack slot))).finish with
  | ok suite =>
    refine ready.carry slots rfl rfl (List.perm_iff_count.mpr fun entry => ?_)
    have moved := emptied entry
    simp only [inventory, held, slotStack, inventoryAll_append, List.count_append]
    omega
  | error failure =>
    refine ready.carry slots rfl rfl (List.perm_iff_count.mpr fun entry => ?_)
    have moved := emptied entry
    simp only [inventory, held, slotStack, inventoryAll_append, List.count_append]
    omega

/-- Every move keeps the tests where they are or carries them along with their groups. -/
theorem kept_step {stock : Stock Action} (kept : stock.Kept) (move : Move Action) :
    (stock.step move).Kept := by
  cases move with
  | opened name => exact kept_opened kept name
  | closed => exact kept_closed kept
  | it name action => exact kept_it kept name action
  | hook slot action => exact kept_hook kept slot action
  | taken slot => exact kept_taken kept slot
  | swapped slot => exact kept_swapped kept slot
  | finished slot => exact kept_finished kept slot
  | noted call name result => exact kept

/-! ### What a move registers and what it drops -/

/-- The cases in which groups are dropped, and the groups that are dropped then. -/
inductive Excused (desk : Desk (Shelf Action) Action) : Move Action → List (Group Action) → Prop where
  /-- A group that has no other group below it is closed, and the call says so. -/
  | closed (only : Group Action) (single : desk.registrar.stack = [only])
      (told : (Registration.closeGroup.runAt desk).1 = .error (.noCurrentGroup "describe")) :
      Excused desk .closed [only]
  /-- A registrar does not close well. -/
  | finished (slot : String) (failure : RegistrationError)
      (failed : (desk.extra.get slot).finish = .error failure) :
      Excused desk (.finished slot) (desk.extra.get slot).stack
  /-- A slot is used again while a registrar is in it. -/
  | taken (slot : String) (registrar : Registrar Action)
      (occupied : desk.extra.slots.lookup slot = some registrar) :
      Excused desk (.taken slot) registrar.stack

/-- The test that a move registers, with the number of the group that is the current one. -/
def registered (stock : Stock Action) : Move Action → List (Nat × Test Action)
  | .it name action =>
    match stock.current with
    | [] => []
    | group :: _ => [(group.number, ⟨name, action⟩)]
  | _ => []

/-- What the next move does to the tests. -/
structure Account (desk : Desk (Shelf Action) Action) (stock : Stock Action)
    (move : Move Action) : Prop where
  /-- The register has what was registered, in order. -/
  register : (stock.step move).register = stock.register ++ stock.registered move
  /-- A test is registered if and only if the call returns. -/
  returned : ∀ name action, move = .it name action →
    ((move.run.runAt desk).1 = .ok () ↔ stock.registered move ≠ [])
  /-- Groups are dropped in the excused cases only. -/
  lost : ∃ dropped, (stock.step move).lost = stock.lost ++ dropped ∧
    (dropped = [] ∨ Excused desk move (plainAll dropped))

theorem register_step (stock : Stock Action) (move : Move Action) :
    (stock.step move).register = stock.register ++ stock.registered move := by
  have same : stock.register = stock.register ++ [] := (List.append_nil _).symm
  cases move with
  | opened name =>
    rw [step]
    cases stock.current <;> exact same
  | closed =>
    rw [step]
    rcases stock.current with _ | ⟨child, _ | ⟨parent, others⟩⟩ <;> exact same
  | it name action =>
    rw [step, registered]
    cases stock.current with
    | nil => exact same
    | cons group rest => rfl
  | hook slot action =>
    rw [step]
    cases stock.current <;> exact same
  | taken slot => exact same
  | swapped slot => exact (furnish_register stock slot).trans same
  | finished slot =>
    rw [step]
    simp only
    cases (Registrar.mk (plainAll ((stock.furnish slot).slotStack slot))).finish <;>
      exact (furnish_register stock slot).trans same
  | noted call name result => exact same

theorem returned_iff {stock : Stock Action} {desk : Desk (Shelf Action) Action}
    (same : stock.Matches desk) (name : String) (action : Action) :
    ((Move.it name action).run.runAt desk).1 = .ok () ↔
      stock.registered (.it name action) ≠ [] := by
  rw [Move.run, Registration.runAt_it, Registration.runAt_updateGroup, registered, same.current]
  cases stock.current with
  | nil => exact ⟨fun ok => (by cases ok), fun empty => absurd rfl empty⟩
  | cons group rest => exact ⟨fun _ => List.cons_ne_nil _ _, fun _ => rfl⟩

theorem lost_step {stock : Stock Action} {desk : Desk (Shelf Action) Action}
    (same : stock.Matches desk) (move : Move Action) :
    ∃ dropped, (stock.step move).lost = stock.lost ++ dropped ∧
      (dropped = [] ∨ Excused desk move (plainAll dropped)) := by
  have nothing : stock.lost = stock.lost ++ [] := (List.append_nil _).symm
  cases move with
  | opened name =>
    rw [step]
    cases stock.current <;> exact ⟨[], nothing, .inl rfl⟩
  | closed =>
    rw [step]
    rcases current : stock.current with _ | ⟨child, _ | ⟨parent, others⟩⟩
    · exact ⟨[], nothing, .inl rfl⟩
    · have single : desk.registrar.stack = [child.plain] := by
        rw [same.current, current]
        rfl
      refine ⟨[child], rfl, .inr (.closed child.plain single ?_)⟩
      rw [Registration.runAt_closeGroup, single]
    · exact ⟨[], nothing, .inl rfl⟩
  | it name action =>
    rw [step]
    cases stock.current <;> exact ⟨[], nothing, .inl rfl⟩
  | hook slot action =>
    rw [step]
    cases stock.current <;> exact ⟨[], nothing, .inl rfl⟩
  | taken slot =>
    refine ⟨stock.slotStack slot, rfl, ?_⟩
    rw [slotStack]
    cases found : stock.aside.lookup slot with
    | none => exact .inl rfl
    | some stack =>
      refine .inr (.taken slot ⟨plainAll stack⟩ ?_)
      rw [same.aside, lookup_shelved, found]
      rfl
  | swapped slot => exact ⟨[], (furnish_lost stock slot).trans nothing, .inl rfl⟩
  | finished slot =>
    have found := get_of_matches same slot
    rw [step]
    simp only
    cases finished : (Registrar.mk (plainAll ((stock.furnish slot).slotStack slot))).finish with
    | ok suite => exact ⟨[], (furnish_lost stock slot).trans nothing, .inl rfl⟩
    | error failure =>
      refine ⟨(stock.furnish slot).slotStack slot, ?_, .inr ?_⟩
      · rw [furnish_lost]
      · have excused := Excused.finished slot failure (found ▸ finished)
        rw [found] at excused
        exact excused
  | noted call name result => exact ⟨[], nothing, .inl rfl⟩

theorem account_of_matches {stock : Stock Action} {desk : Desk (Shelf Action) Action}
    (same : stock.Matches desk) (move : Move Action) : Account desk stock move where
  register := register_step stock move
  returned name action is := by
    subst is
    exact returned_iff same name action
  lost := lost_step same move

/-! ### Registrations -/

/-- What is known of a desk that can be reached and of its stock. -/
structure Tracked (desk : Desk (Shelf Action) Action) (stock : Stock Action) : Prop where
  /-- Without its numbers the stock is what lies at the desk. -/
  same : stock.Matches desk
  /-- Every registered test is there once, in its group and in order, among the groups of the
  registrars and the suites or among those that were dropped. -/
  custody : Custody (stock.held ++ inventoryAll stock.lost) stock.register stock.next
  /-- The next move registers and drops what it may. -/
  account : ∀ move, Account desk stock move
  /-- If the current registrar closes well, the suite is its whole stack. -/
  closing : ∀ suite, desk.registrar.finish = .ok suite →
    ∃ root, stock.current = [root] ∧ suite = ⟨root.plain⟩

theorem tracked_of_kept {stock : Stock Action} {desk : Desk (Shelf Action) Action}
    (same : stock.Matches desk) (kept : stock.Kept) (sound : Registration.Sound desk) :
    Tracked desk stock where
  same := same
  custody := kept.custody
  account := account_of_matches same
  closing suite finished := by
    have shaped := sound.1
    rw [same.current] at finished shaped
    exact plain_of_finish shaped finished

theorem tracked_replay {stock : Stock Action} {desk : Desk (Shelf Action) Action}
    (same : stock.Matches desk) (kept : stock.Kept) (sound : Registration.Sound desk)
    (moves : List (Move Action)) : Tracked (Move.replay desk moves) (stock.replay moves) := by
  induction moves generalizing stock desk with
  | nil => exact tracked_of_kept same kept sound
  | cons move rest inductionHypothesis =>
    exact inductionHypothesis (matches_step same sound move) (kept_step kept move)
      (Move.keepsSound_run move desk sound)

/-- A group that is closed with another group below it is not dropped. -/
theorem lost_closed_of_two_le {stock : Stock Action} {desk : Desk (Shelf Action) Action}
    (same : stock.Matches desk) (two_le : 2 ≤ desk.registrar.stack.length) :
    (stock.step .closed).lost = stock.lost := by
  rw [same.current, plainAll_eq_map, List.length_map] at two_le
  rw [step]
  rcases current : stock.current with _ | ⟨child, _ | ⟨parent, others⟩⟩
  · rfl
  · rw [current] at two_le
    exact absurd two_le (Nat.not_succ_le_self 1)
  · rfl

/-- Closing behind a body is possible if and only if at least two groups are left. -/
theorem andThen_closeGroup (left : Except RegistrationError Unit × Desk (Shelf Action) Action) :
    Registration.andThen (Registration.closeGroup.runAt left.2) (fun _ after => (left.1, after)) =
      (if 2 ≤ left.2.registrar.stack.length then left.1
        else .error (.noCurrentGroup "describe"),
        (Registration.closeGroup.runAt left.2).2) := by
  obtain ⟨result, ⟨⟨stack⟩, journal, shelf⟩⟩ := left
  rw [Registration.runAt_closeGroup]
  rcases stack with _ | ⟨child, _ | ⟨parent, others⟩⟩
  · rfl
  · rfl
  · have enough : 2 ≤ (child :: parent :: others).length := Nat.le_add_left 2 others.length
    refine Prod.ext (Eq.symm ?_) rfl
    show (if 2 ≤ (child :: parent :: others).length then result
      else .error (.noCurrentGroup "describe")) = result
    rw [if_pos enough]

/-- A call that defines a group runs its body on the new group and closes the group that is then on
top. It returns what the body returned if there is another group below that one. -/
theorem describe_closes (name : String) (body : Registration (Shelf Action) Action Unit)
    {desk : Desk (Shelf Action) Action} {group : Group Action} {rest : List (Group Action)}
    (stack : desk.registrar.stack = group :: rest) :
    ((Registration.describe name body).runAt desk).2 =
        Move.apply (body.runAt (Move.apply desk (.opened name))).2 .closed ∧
      ((Registration.describe name body).runAt desk).1 =
        if 2 ≤ (body.runAt (Move.apply desk (.opened name))).2.registrar.stack.length then
          (body.runAt (Move.apply desk (.opened name))).1
        else .error (.noCurrentGroup "describe") := by
  have entered : (Registration.openGroup name).runAt desk =
      (.ok (), Move.apply desk (.opened name)) := by
    rw [Move.apply, Move.run, Registration.runAt_openGroup, stack]
  have ended := Registration.runAt_describe_halves name body desk
  rw [entered] at ended
  have whole := ended.trans (andThen_closeGroup (body.runAt (Move.apply desk (.opened name))))
  rw [whole]
  exact ⟨rfl, rfl⟩

/-- After any moves every registered test is there once, in the group that was the current one when
it was registered and behind the tests that were registered there before, among the groups of all
registrars and suites or among those that were dropped in an excused case. Running a body is
replaying its moves. A call that defines a group drops nothing if it returns, or if its body left at
least two groups. -/
theorem tests_kept :
    (∀ moves : List (Move Action), Tracked (Move.replay Move.start moves) (start.replay moves)) ∧
      (∀ (body : List (Statement Action)) (desk : Desk (Shelf Action) Action),
        Move.replay desk (Statement.movesAll body desk) =
          ((Statement.runAll body).runAt desk).2) ∧
      ∀ (name : String) (body : Registration (Shelf Action) Action Unit)
        (desk : Desk (Shelf Action) Action) (group : Group Action) (rest : List (Group Action)),
        desk.registrar.stack = group :: rest →
          let left := (body.runAt (Move.apply desk (.opened name))).2
          let ended := (Registration.describe name body).runAt desk
          ended.2 = Move.apply left .closed ∧
            (ended.1 = .error (.noCurrentGroup "describe") ∨
              2 ≤ left.registrar.stack.length ∧
                ended.1 = (body.runAt (Move.apply desk (.opened name))).1) ∧
            (ended.1 = .ok () ∨ 2 ≤ left.registrar.stack.length →
              ∀ stock : Stock Action, stock.Matches left →
                (stock.step .closed).lost = stock.lost) := by
  refine ⟨tracked_replay matches_start kept_start Move.orderly_start.sound,
    Statement.traces_runAll, fun name body desk group rest stack => ?_⟩
  obtain ⟨closed, returned⟩ := describe_closes name body stack
  refine ⟨closed, ?_, fun fine stock same => lost_closed_of_two_le same ?_⟩
  · by_cases enough : 2 ≤ (body.runAt (Move.apply desk (.opened name))).2.registrar.stack.length
    · rw [if_pos enough] at returned
      exact .inr ⟨enough, returned⟩
    · rw [if_neg enough] at returned
      exact .inl returned
  · refine Classical.byContradiction fun few => ?_
    rw [if_neg few] at returned
    rcases fine with fine | enough
    · rw [fine] at returned
      cases returned
    · exact few enough

/-- In the crossed body the test goes into the root of the other registrar, number two. That root is
dropped when it is closed in the place of the group, number one, which is dropped when the registrar
that it was left on does not close well. -/
theorem tests_kept_crossed :
    Tracked (Move.replay Move.start (Statement.movesAll Move.crossed Move.start))
        (start.replay (Statement.movesAll Move.crossed Move.start)) ∧
      (start.replay (Statement.movesAll Move.crossed Move.start)).register = [(2, ⟨"inside", 1⟩)] ∧
      inventoryAll (start.replay (Statement.movesAll Move.crossed Move.start)).lost =
        [(2, [⟨"inside", 1⟩]), (1, []), (0, [])] := by
  obtain ⟨tracked, _, _⟩ := @tests_kept Nat
  exact ⟨tracked (Statement.movesAll Move.crossed Move.start), rfl, rfl⟩

end Stock

end TestTree
