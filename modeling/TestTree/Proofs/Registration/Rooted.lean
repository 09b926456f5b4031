/-
This file proves that a registered suite has one group without a name, its root.

The invariant is about stacks: a group on the stack has no name if and only if nothing is below it,
and every group that became a child has a name, all the way down. Bodies may put other registrars
on the desk, so the invariant is about the registrar on the desk and those set aside, and every move
keeps it. When a body leaves too few groups, the group that would become a child is lost, so the
root of a registrar never becomes the child of anything.
-/

import TestTree.Proofs.Registration.Moves
import TestTree.Proofs.Report.Decoding

namespace TestTree

variable {Action : Type}

/-! ### Shapes of stacks -/

/-- Every group below the group has a name. -/
def Group.NamedBelow (group : Group Action) : Prop :=
  ∀ child ∈ Group.outlines group.children, child.Named

theorem Group.outlines_append (first second : List (Group Action)) :
    Group.outlines (first ++ second) = Group.outlines first ++ Group.outlines second := by
  induction first with
  | nil => rfl
  | cons group rest inductionHypothesis =>
    rw [List.cons_append, Group.outlines, inductionHypothesis, Group.outlines, List.cons_append]

theorem Group.named_outline {group : Group Action} (named : group.name ≠ none)
    (below : group.NamedBelow) : group.outline.Named := by
  obtain ⟨name, tests, children, hooks⟩ := group
  cases name with
  | none => exact absurd rfl named
  | some name => exact .node name _ _ below

namespace Registrar

/-- On the stack a group has no name if and only if it is at the bottom. -/
def Shaped : List (Group Action) → Prop
  | [] => True
  | group :: rest => group.NamedBelow ∧ (group.name = none ↔ rest = []) ∧ Shaped rest

theorem namedBelow_of_children_eq_nil {group : Group Action} (empty : group.children = []) :
    group.NamedBelow := by
  intro child member
  rw [empty] at member
  exact absurd member List.not_mem_nil

theorem shaped_new : Shaped (Registrar.new : Registrar Action).stack :=
  ⟨namedBelow_of_children_eq_nil rfl, ⟨fun _ => rfl, fun _ => rfl⟩, trivial⟩

theorem shaped_push {group : Group Action} {rest : List (Group Action)} (name : String)
    (shaped : Shaped (group :: rest)) : Shaped (.named name :: group :: rest) := by
  refine ⟨namedBelow_of_children_eq_nil rfl, ⟨fun unnamed => ?_, fun empty => ?_⟩, shaped⟩
  · cases unnamed
  · cases empty

/-- Work on the group on top keeps the shape if that group keeps its name. -/
theorem shaped_change {group changed : Group Action} {rest : List (Group Action)}
    (shaped : Shaped (group :: rest)) (name : changed.name = group.name)
    (below : changed.NamedBelow) : Shaped (changed :: rest) :=
  ⟨below, name ▸ shaped.2.1, shaped.2.2⟩

/-- Closing a group with a group below it: the closed one is not at the bottom, so it has a name. -/
theorem shaped_close {child parent : Group Action} {others : List (Group Action)}
    (shaped : Shaped (child :: parent :: others)) : Shaped (parent.addChild child :: others) := by
  obtain ⟨childBelow, childName, parentBelow, parentName, othersShaped⟩ := shaped
  have named : child.outline.Named := by
    refine Group.named_outline ?_ childBelow
    intro unnamed
    cases childName.mp unnamed
  refine ⟨?_, parentName, othersShaped⟩
  intro outline member
  rw [Group.addChild, Group.outlines_append, List.mem_append] at member
  rcases member with member | member
  · exact parentBelow outline member
  · rw [List.mem_singleton.mp member]
    exact named

/-- A registrar that closes well closes with its only group, the one without a name. -/
theorem rooted_of_finish {registrar : Registrar Action} {suite : Suite Action}
    (shaped : Shaped registrar.stack) (finished : registrar.finish = .ok suite) :
    suite.root.outline.Rooted := by
  obtain ⟨stack⟩ := registrar
  cases stack with
  | nil => cases finished
  | cons root rest =>
    unfold finish at finished
    simp only at finished
    split at finished
    · rename_i closed
      have unnamed : root.name = none := by
        have bare := (List.countP_eq_zero.mp closed) root List.mem_cons_self
        simpa only [Group.isRoot, Bool.not_eq_true, Bool.not_eq_false', Option.isNone_iff_eq_none]
          using bare
      obtain rfl := Except.ok.inj finished
      obtain ⟨name, tests, children, hooks⟩ := root
      exact ⟨unnamed, shaped.1⟩
    · cases finished

end Registrar

/-! ### Moves keep the shape -/

namespace Registration

open Registrar

/-- The registrar on the desk and all registrars set aside have the right shape. -/
def Sound (desk : Desk (Shelf Action) Action) : Prop :=
  Shaped desk.registrar.stack ∧ ∀ entry ∈ desk.extra.slots, Shaped entry.2.stack

/-- A registration that finds a sound desk leaves one, whether it fails or not. -/
def KeepsSound {Value : Type} (registration : Registration (Shelf Action) Action Value) : Prop :=
  ∀ desk, Sound desk → Sound (registration.runAt desk).2

/-- A slot holds a registrar of the right shape, since an empty one stands for a new one. -/
theorem shaped_get {desk : Desk (Shelf Action) Action} (sound : Sound desk) (slot : String) :
    Shaped (desk.extra.get slot).stack := by
  unfold Shelf.get
  cases found : desk.extra.slots.lookup slot with
  | none => exact shaped_new
  | some registrar =>
    obtain ⟨before, after, split, _⟩ := List.lookup_eq_some_iff.mp found
    refine sound.2 (slot, registrar) ?_
    rw [split]
    exact List.mem_append_right before List.mem_cons_self

theorem keepsSound_openGroup (name : String) :
    KeepsSound (openGroup name : Registration (Shelf Action) Action Unit) := by
  intro desk sound
  obtain ⟨⟨stack⟩, journal, shelf⟩ := desk
  rw [runAt_openGroup]
  cases stack with
  | nil => exact sound
  | cons group rest => exact ⟨shaped_push name sound.1, sound.2⟩

theorem keepsSound_closeGroup :
    KeepsSound (closeGroup : Registration (Shelf Action) Action Unit) := by
  intro desk sound
  obtain ⟨⟨stack⟩, journal, shelf⟩ := desk
  rw [runAt_closeGroup]
  match stack with
  | [] => exact sound
  | [_] => exact ⟨trivial, sound.2⟩
  | _ :: _ :: _ => exact ⟨shaped_close sound.1, sound.2⟩

/-- A call that changes the group on top keeps a sound desk if it changes neither its name nor its
children. -/
theorem keepsSound_updateGroup (call : String) (change : Group Action → Group Action)
    (name : ∀ group, (change group).name = group.name)
    (children : ∀ group, (change group).children = group.children) :
    KeepsSound (updateGroup call change) := by
  intro desk sound
  obtain ⟨⟨stack⟩, journal, shelf⟩ := desk
  rw [runAt_updateGroup]
  cases stack with
  | nil => exact sound
  | cons group rest =>
    refine ⟨shaped_change sound.1 (name group) ?_, sound.2⟩
    unfold Group.NamedBelow
    rw [children]
    exact sound.1.1

theorem keepsSound_it (name : String) (action : Action) : KeepsSound (it name action) := by
  intro desk sound
  rw [runAt_it]
  exact keepsSound_updateGroup "it" (fun group => group.addTest ⟨name, action⟩) (fun _ => rfl)
    (fun _ => rfl) { desk with journal := desk.journal ++ [.registering name] } sound

theorem keepsSound_setHook (slot : HookSlot) (hook : Action) : KeepsSound (setHook slot hook) := by
  intro desk sound
  obtain ⟨⟨stack⟩, journal, shelf⟩ := desk
  rw [runAt_setHook]
  cases stack with
  | nil => exact sound
  | cons group rest => exact ⟨shaped_change sound.1 rfl sound.1.1, sound.2⟩

/-- Exchanging registrars keeps a sound desk if the new one has the right shape. -/
theorem sound_exchange {desk : Desk (Shelf Action) Action} (sound : Sound desk) (slot : String)
    {other : Registrar Action} (shaped : Shaped other.stack) :
    Sound ((exchange slot other).runAt desk).2 := by
  refine ⟨shaped, fun entry member => ?_⟩
  rcases List.mem_cons.mp member with rfl | member
  · exact sound.1
  · exact sound.2 entry (List.mem_filter.mp member).1

theorem keepsSound_closeSlot (slot : String) :
    KeepsSound (closeSlot slot : Registration (Shelf Action) Action Unit) :=
  fun _ sound => ⟨sound.1, fun entry member => sound.2 entry (List.mem_filter.mp member).1⟩

end Registration

namespace Move

open Registration Registrar

/-- Every move keeps the shape of all registrars. -/
theorem keepsSound_run (move : Move Action) : KeepsSound move.run := by
  cases move with
  | opened name => exact keepsSound_openGroup name
  | closed => exact keepsSound_closeGroup
  | it name action => exact keepsSound_it name action
  | hook slot action => exact keepsSound_setHook slot action
  | taken slot => exact fun desk sound => sound_exchange sound slot shaped_new
  | swapped slot => exact fun desk sound => sound_exchange sound slot (shaped_get sound slot)
  | finished slot => exact keepsSound_closeSlot slot
  | noted call name result => exact fun desk sound => sound

theorem sound_replay {desk : Desk (Shelf Action) Action} (sound : Sound desk)
    (moves : List (Move Action)) : Sound (replay desk moves) := by
  induction moves generalizing desk with
  | nil => exact sound
  | cons move rest inductionHypothesis =>
    exact inductionHypothesis (keepsSound_run move desk sound)

/-- The desk that a session begins with. -/
def start : Desk (Shelf Action) Action := ⟨.new, [], .empty⟩

theorem sound_begin : Sound (start : Desk (Shelf Action) Action) :=
  ⟨shaped_new, fun _ member => nomatch member⟩

end Move

namespace Registration

open Registrar

/-- In the suite of a session the root is the only group without a name. -/
theorem rooted_of_session {body : List (Statement Action)} {suite : Suite Action}
    (registered : (Statement.session body).outcome = .ok suite) : suite.root.outline.Rooted := by
  have sound : Sound ((Statement.runAll body).runAt Move.start).2 := by
    rw [← Statement.traces_runAll body]
    exact Move.sound_replay Move.sound_begin _
  refine rooted_of_finish sound.1 ?_
  unfold Session.outcome at registered
  cases result : (Statement.session body).body with
  | error failure =>
    rw [result] at registered
    cases registered
  | ok done =>
    rw [result] at registered
    exact registered

end Registration

end TestTree
