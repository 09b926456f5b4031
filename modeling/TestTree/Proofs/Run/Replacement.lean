/-
This file compares the courses of two trees that differ in one action.

If no action reads what another one writes, the two courses go along side by side: each call finds
the part of the state that it reads as in the other course, so it comes to the same unless it is a
call of the replaced action, or of a test that is called or not called because of it. What such a
call leaves is read by nobody else. This is kept from call to call, and then from test to test and
from group to group.
-/

import TestTree.Proofs.Report.Confinement
import TestTree.Proofs.Run.Parting

namespace TestTree

open Occurrence
open Suite (settling)

variable {State View Label Kept Error : Type}

/-! ### Actions that keep to themselves -/

/-- What the action comes to is determined by what its label views of the state, and so is what the
label views afterwards. -/
def ReadsOwn (view : Label → State → View) (entry : Label × Action State) : Prop :=
  ∀ first second, view entry.1 first = view entry.1 second →
    (entry.2.settle first).2 = (entry.2.settle second).2 ∧
      view entry.1 (entry.2.settle first).1 = view entry.1 (entry.2.settle second).1

/-- The action leaves alone what other labels view of the state. -/
def WritesOwn (view : Label → State → View) (entry : Label × Action State) : Prop :=
  ∀ reader, reader ≠ entry.1 → ∀ state, view reader (entry.2.settle state).1 = view reader state

/-- No action of the suite reads what another one writes. -/
structure Suite.Independent (suite : Suite (Label × Action State)) (view : Label → State → View) :
    Prop where
  reads : ∀ entry ∈ suite.root.actions, ReadsOwn view entry
  writes : ∀ entry ∈ suite.root.actions, WritesOwn view entry

/-- An action in the place of a label. The dependent labels are those of the tests that may be
called in one of the two courses only. -/
structure Replacement (Label State View : Type) where
  label : Label
  action : Action State
  view : Label → State → View
  dependent : List Label

namespace Replacement

variable (replacement : Replacement Label State View)

/-- The label is the replaced one or depends on it. -/
def Affects (label : Label) : Prop :=
  label = replacement.label ∨ label ∈ replacement.dependent

/-- All other labels view the same of the two states. -/
def Agree (first second : State) : Prop :=
  ∀ reader, ¬ replacement.Affects reader →
    replacement.view reader first = replacement.view reader second

variable {replacement} {entry : Label × Action State} {first second : State}

/-- A call that is affected changes nothing that an unaffected label views. -/
theorem view_of_affected {reader : Label} (writes : WritesOwn replacement.view entry)
    (affected : replacement.Affects entry.1) (unaffected : ¬ replacement.Affects reader)
    (state : State) :
    replacement.view reader (settling entry state).1 = replacement.view reader state := by
  refine writes reader ?_ state
  rintro rfl
  exact unaffected affected

/-! ### Two calls side by side -/

variable [DecidableEq Label] (replacement)

/-- The entry that stands in the place of an entry. -/
def change (entry : Label × Action State) : Label × Action State :=
  if entry.1 = replacement.label then (entry.1, replacement.action) else entry

/-- An entry that keeps to itself, and whose place is taken by one that leaves the others alone. -/
structure Regular (entry : Label × Action State) : Prop where
  reads : ReadsOwn replacement.view entry
  writes : WritesOwn replacement.view entry
  replaced : WritesOwn replacement.view (replacement.change entry)

variable {replacement}

theorem change_fst (entry : Label × Action State) : (replacement.change entry).1 = entry.1 := by
  unfold change
  split <;> rfl

theorem change_of_ne (other : entry.1 ≠ replacement.label) : replacement.change entry = entry :=
  if_neg other

theorem Agree.first_call (agree : replacement.Agree first second)
    (regular : replacement.Regular entry) (affected : replacement.Affects entry.1) :
    replacement.Agree (settling entry first).1 second := fun reader unaffected =>
  (view_of_affected regular.writes affected unaffected first).trans (agree reader unaffected)

theorem Agree.second_call (agree : replacement.Agree first second)
    (regular : replacement.Regular entry) (affected : replacement.Affects entry.1) :
    replacement.Agree first (settling (replacement.change entry) second).1 := by
  intro reader unaffected
  have affectedToo : replacement.Affects (replacement.change entry).1 :=
    (change_fst entry).symm ▸ affected
  exact (agree reader unaffected).trans
    (view_of_affected regular.replaced affectedToo unaffected second).symm

/-- After a call in each course the states agree as before, and the calls come to the same if they
are not affected. -/
theorem Agree.both_calls (agree : replacement.Agree first second)
    (regular : replacement.Regular entry) :
    replacement.Agree (settling entry first).1 (settling (replacement.change entry) second).1 ∧
      (¬ replacement.Affects entry.1 →
        (settling entry first).2 = (settling (replacement.change entry) second).2) := by
  by_cases affected : replacement.Affects entry.1
  · exact ⟨(agree.first_call regular affected).second_call regular affected,
      fun unaffected => absurd affected unaffected⟩
  · rw [change_of_ne fun same => affected (Or.inl same)]
    obtain ⟨result, own⟩ := regular.reads first second (agree entry.1 affected)
    refine ⟨fun reader unaffected => ?_, fun _ => result⟩
    by_cases other : reader = entry.1
    · rw [other]
      exact own
    · exact (regular.writes reader other first).trans
        ((agree reader unaffected).trans (regular.writes reader other second).symm)

/-! ### Two lines side by side -/

variable (replacement)

/-- Two calls of one label that end alike, unless it is the replaced one. -/
def CallsAlike (first second : Call (Label × Action State) State) : Prop :=
  first.act.1 = second.act.1 ∧ (first.act.1 ≠ replacement.label → first.ended = second.ended)

/-- The calls of a line but those of dependent tests. -/
def counted (line : List (Occurrence (Label × Action State) State)) :
    List (Call (Label × Action State) State) :=
  (calls line).filter fun call => call.act.1 ∉ replacement.dependent

/-- The calls of two lines are alike, one by one, but for those of dependent tests. -/
def LinesAlike (first second : List (Occurrence (Label × Action State) State)) : Prop :=
  List.Forall₂ replacement.CallsAlike (replacement.counted first) (replacement.counted second)

variable {replacement}

theorem LinesAlike.append {first second third fourth : List (Occurrence (Label × Action State) State)}
    (one : replacement.LinesAlike first second) (two : replacement.LinesAlike third fourth) :
    replacement.LinesAlike (first ++ third) (second ++ fourth) := by
  unfold LinesAlike counted at *
  rw [calls_append, calls_append, List.filter_append, List.filter_append]
  exact List.rel_append one two

theorem linesAlike_told (list others : List Event) :
    replacement.LinesAlike (list.map .told) (others.map .told) := by
  unfold LinesAlike counted
  rw [calls_map_told, calls_map_told]
  exact .nil

/-- The call of a dependent test does not count. -/
theorem counted_dependent {test : String} {phase : Phase}
    {call : Call (Label × Action State) State} (dependent : call.act.1 ∈ replacement.dependent) :
    replacement.counted [.called test phase call] = [] :=
  List.filter_cons_of_neg (by simpa using dependent)

theorem Agree.linesAlike (agree : replacement.Agree first second)
    (regular : replacement.Regular entry) (test : String) (phase : Phase) :
    replacement.LinesAlike [.called test phase (.of settling entry first)]
      [.called test phase (.of settling (replacement.change entry) second)] := by
  have same : (replacement.change entry).1 = entry.1 := change_fst entry
  unfold LinesAlike
  by_cases dependent : entry.1 ∈ replacement.dependent
  · rw [counted_dependent dependent, counted_dependent (same.symm ▸ dependent)]
    exact .nil
  · have counts : ∀ call : Call (Label × Action State) State, call.act.1 = entry.1 →
        replacement.counted [.called test phase call] = [call] := fun call own =>
      List.filter_cons_of_pos (by simpa [own] using dependent)
    rw [counts _ rfl, counts _ same]
    refine .cons ⟨same.symm, fun other => ?_⟩ .nil
    exact (agree.both_calls regular).2 (not_or.mpr ⟨other, dependent⟩)

/-! ### Two tests side by side -/

open Course

theorem Agree.both_hooks (agree : replacement.Agree first second)
    {hook : Option (Label × Action State)} (regular : ∀ entry ∈ hook, replacement.Regular entry)
    (test : String) (slot : HookSlot) :
    let one := Course.hook (answer settling) hook first
    let other := Course.hook (answer settling) (hook.map replacement.change) second
    replacement.Agree one.1 other.1 ∧
      ((∀ entry ∈ hook, ¬ replacement.Affects entry.1) → one.2 = other.2) ∧
      replacement.LinesAlike (hookLine settling test slot hook first)
        (hookLine settling test slot (hook.map replacement.change) second) := by
  cases hook with
  | none => exact ⟨agree, fun _ => rfl, .nil⟩
  | some entry =>
    have keeps := regular entry rfl
    obtain ⟨after, result⟩ := agree.both_calls keeps
    refine ⟨after, fun unaffected => ?_, agree.linesAlike keeps test slot.phase⟩
    show cause? (Boundary.ofAttempt _) = cause? (Boundary.ofAttempt _)
    rw [result (unaffected entry rfl)]

/-- The test is called in both courses or in neither, unless it depends on the replaced action. -/
theorem Agree.both_bodies (agree : replacement.Agree first second)
    {test : Test (Label × Action State)} (regular : replacement.Regular test.action)
    {before after : Option Cause}
    (same : test.action.1 ∉ replacement.dependent → before = after) :
    let one := Course.body (answer settling) test before first
    let other := Course.body (answer settling) (test.map replacement.change) after second
    replacement.Agree one.1 other.1 ∧
      (¬ replacement.Affects test.action.1 → one.2 = other.2) ∧
      replacement.LinesAlike (bodyLine settling test before first)
        (bodyLine settling (test.map replacement.change) after second) := by
  have affected_of_ne : before ≠ after → test.action.1 ∈ replacement.dependent := fun different =>
    Classical.not_not.mp fun independent => different (same independent)
  cases before with
  | none =>
    cases after with
    | none =>
      obtain ⟨agreed, result⟩ := agree.both_calls regular
      refine ⟨agreed, fun unaffected => ?_, agree.linesAlike regular test.name .test⟩
      show Status.ofFailure? ((cause? (Boundary.ofAttempt _)).map _) =
        Status.ofFailure? ((cause? (Boundary.ofAttempt _)).map _)
      rw [result unaffected]
      rfl
    | some cause =>
      have dependent := affected_of_ne nofun
      refine ⟨agree.first_call regular (Or.inr dependent),
        fun unaffected => absurd (Or.inr dependent) unaffected, ?_⟩
      show List.Forall₂ _ (replacement.counted [.called _ _ _]) _
      rw [counted_dependent dependent]
      exact .nil
  | some cause =>
    cases after with
    | none =>
      have dependent := affected_of_ne nofun
      refine ⟨agree.second_call regular (Or.inr dependent),
        fun unaffected => absurd (Or.inr dependent) unaffected, ?_⟩
      show List.Forall₂ _ _ (replacement.counted [.called _ _ _])
      rw [counted_dependent ((change_fst test.action).symm ▸ dependent)]
      exact .nil
    | some other =>
      refine ⟨agree, fun unaffected => ?_, .nil⟩
      rw [same fun dependent => unaffected (Or.inr dependent)]
      rfl

variable (replacement) in
/-- The entries of a test and of the hooks around it keep to themselves, the test is a dependent one
if the hook before it is affected, and what is affected may differ. -/
structure Orderly (leeway : Leeway Label) (hooks : Hooks (Label × Action State))
    (test : Test (Label × Action State)) : Prop where
  around : ∀ entry ∈ hooks.actions, replacement.Regular entry
  own : replacement.Regular test.action
  depends : ∀ hook ∈ hooks.beforeEach, replacement.Affects hook.1 →
    test.action.1 ∈ replacement.dependent
  status : replacement.Affects test.action.1 → leeway.status test.action.1
  teardown : ∀ hook ∈ hooks.afterEach, replacement.Affects hook.1 → leeway.teardown hook.1

variable {leeway : Leeway Label}

/-- What two courses of one test have in common. -/
theorem Agree.both_tests (agree : replacement.Agree first second)
    {hooks : Hooks (Label × Action State)} {test : Test (Label × Action State)}
    (orderly : replacement.Orderly leeway hooks test) (depth : Nat) :
    let one := Course.test (answer settling) hooks test first
    let other := Course.test (answer settling) (hooks.map replacement.change)
      (test.map replacement.change) second
    replacement.Agree one.1 other.1 ∧
      test.Within leeway hooks (test.name, one.2) (test.name, other.2) ∧
      replacement.LinesAlike (testLine settling hooks depth test first)
        (testLine settling (hooks.map replacement.change) depth (test.map replacement.change)
          second) := by
  have hooked : ∀ slot, ∀ entry ∈ hooks.get? slot, replacement.Regular entry :=
    fun slot entry found => orderly.around entry (Hooks.mem_actions found)
  obtain ⟨prepared, before, beforeLines⟩ :=
    agree.both_hooks (hooked .beforeEach) test.name .beforeEach
  obtain ⟨tested, status, bodyLines⟩ := prepared.both_bodies orderly.own fun independent =>
    before fun hook found affected => independent (orderly.depends hook found affected)
  obtain ⟨cleared, after, afterLines⟩ :=
    tested.both_hooks (hooked .afterEach) test.name .afterEach
  refine ⟨cleared, ⟨rfl, rfl, fun firm => ?_, fun firm => ?_⟩,
    (beforeLines.append (bodyLines.append afterLines)).append (linesAlike_told [_] [_])⟩
  · exact status fun affected => firm (orderly.status affected)
  · exact congrArg (Option.map _) (after fun hook found affected =>
      firm hook found (orderly.teardown hook found affected))

theorem Agree.both_testLists (agree : replacement.Agree first second)
    {hooks : Hooks (Label × Action State)} {list : List (Test (Label × Action State))}
    (orderly : ∀ test ∈ list, replacement.Orderly leeway hooks test) (depth : Nat) :
    let one := Course.tests (answer settling) hooks list first
    let other := Course.tests (answer settling) (hooks.map replacement.change)
      (list.map (Test.map replacement.change)) second
    replacement.Agree one.1 other.1 ∧ Test.AllWithin leeway hooks list one.2 other.2 ∧
      replacement.LinesAlike (testsLine settling hooks depth list first)
        (testsLine settling (hooks.map replacement.change) depth
          (list.map (Test.map replacement.change)) second) := by
  induction list generalizing first second with
  | nil => exact ⟨agree, trivial, .nil⟩
  | cons test rest inductionHypothesis =>
    obtain ⟨head, others⟩ := List.forall_mem_cons.mp orderly
    obtain ⟨between, within, line⟩ := agree.both_tests head depth
    obtain ⟨after, allWithin, lines⟩ := inductionHypothesis between others
    exact ⟨after, ⟨within, allWithin⟩, line.append lines⟩

/-! ### Two trees side by side -/

mutual

/-- What two courses of one tree have in common: their reports differ only as far as they may, and
their calls are alike but for those of dependent tests. -/
theorem Agree.both_groups (depth : Nat) :
    (group : Group (Label × Action State)) → {first second : State} →
      replacement.Agree first second →
      (∀ place ∈ group.walk depth, ∀ test ∈ place.2.tests,
        replacement.Orderly leeway place.2.hooks test) →
      let one := Course.group (answer settling) group first
      let other := Course.group (answer settling) (group.map replacement.change) second
      replacement.Agree one.1 other.1 ∧ group.Within leeway one.2 other.2 ∧
        replacement.LinesAlike (chronicle settling depth group first)
          (chronicle settling depth (group.map replacement.change) second)
  | ⟨name, list, children, hooks⟩, first, second, agree, orderly => by
    rw [Group.walk] at orderly
    obtain ⟨own, below⟩ := List.forall_mem_cons.mp orderly
    obtain ⟨between, outcomes, line⟩ := agree.both_testLists own (depth + 1)
    obtain ⟨after, reports, lines⟩ := Agree.both_groupLists (depth + 1) children between below
    rw [Group.map, chronicle, chronicle]
    exact ⟨after, Group.within_of name outcomes reports,
      (linesAlike_told _ _).append (line.append lines)⟩

theorem Agree.both_groupLists (depth : Nat) :
    (groups : List (Group (Label × Action State))) → {first second : State} →
      replacement.Agree first second →
      (∀ place ∈ Group.walkAll depth groups, ∀ test ∈ place.2.tests,
        replacement.Orderly leeway place.2.hooks test) →
      let one := Course.groups (answer settling) groups first
      let other := Course.groups (answer settling) (Group.mapAll replacement.change groups) second
      replacement.Agree one.1 other.1 ∧ Group.AllWithin leeway groups one.2 other.2 ∧
        replacement.LinesAlike (chronicleAll settling depth groups first)
          (chronicleAll settling depth (Group.mapAll replacement.change groups) second)
  | [], _, _, agree, _ => ⟨agree, trivial, .nil⟩
  | group :: rest, first, second, agree, orderly => by
    rw [Group.walkAll] at orderly
    obtain ⟨own, others⟩ := List.forall_mem_append.mp orderly
    obtain ⟨between, report, line⟩ := Agree.both_groups depth group agree own
    obtain ⟨after, reports, lines⟩ := Agree.both_groupLists depth rest between others
    rw [Group.mapAll, chronicleAll, chronicleAll]
    exact ⟨after, ⟨report, reports⟩, line.append lines⟩

end

end Replacement

end TestTree
