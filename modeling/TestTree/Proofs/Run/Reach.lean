/-
This file proves how far the failure of one action reaches.

A suite is compared with the one in which a single action was replaced. Where the action stands
decides what may differ between the two runs: at a test the status of this test, at a before-each
hook the statuses of the tests of its group and whether they are called, and at an after-each hook
nothing but the teardowns of these tests. Each label stands at one place only, so it tells which of
the three it is.
-/

import Mathlib.Logic.Function.Basic
import TestTree.Proofs.Run.Audience
import TestTree.Proofs.Run.Replacement

namespace TestTree

open Occurrence

variable {State View Label Kept Error : Type}

/-! ### Runs side by side -/

namespace Note

/-- The label under which a note is taken. -/
def label : Note Label State → Label
  | .begun label => label
  | .ended label _ _ => label

/-- Two notes that tell the same of the same action, but for the state that it leaves, and but for
its result if it is the replaced one. -/
def AlikeBut (replaced : Label) : Note Label State → Note Label State → Prop
  | .begun first, .begun second => first = second
  | .ended first _ result, .ended second _ other =>
    first = second ∧ (first ≠ replaced → result = other)
  | _, _ => False

theorem filter_not_mem_nil [DecidableEq Label] (notes : List (Note Label State)) :
    (notes.filter fun note => note.label ∉ ([] : List Label)) = notes :=
  List.filter_eq_self.mpr fun _ _ => decide_eq_true List.not_mem_nil

theorem filter_inTurn (keep : Label → Bool) (calls : List (Call (Label × Action State) State)) :
    ((inTurn calls).filter fun note => keep note.label) =
      inTurn (calls.filter fun call => keep call.act.1) := by
  induction calls with
  | nil => rfl
  | cons call rest inductionHypothesis =>
    show ([begun call.act.1, ended call.act.1 call.left call.ended] ++ inTurn rest).filter _ = _
    rw [List.filter_append, inductionHypothesis]
    cases kept : keep call.act.1 with
    | false =>
      simp only [List.filter_cons, label, kept, Bool.false_eq_true, if_false, List.filter_nil,
        List.nil_append]
    | true =>
      simp only [List.filter_cons, label, kept, if_true, List.filter_nil]
      rfl

end Note

namespace Replacement

variable [DecidableEq Label] {replacement : Replacement Label State View}

/-- The notes of alike calls are alike. -/
theorem LinesAlike.notes {first second : List (Occurrence (Label × Action State) State)}
    (alike : replacement.LinesAlike first second) :
    List.Forall₂ (Note.AlikeBut replacement.label)
      ((Note.inTurn (calls first)).filter fun note => note.label ∉ replacement.dependent)
      ((Note.inTurn (calls second)).filter fun note => note.label ∉ replacement.dependent) := by
  rw [Note.filter_inTurn fun label => label ∉ replacement.dependent,
    Note.filter_inTurn fun label => label ∉ replacement.dependent]
  refine List.rel_flatMap alike fun call other same => ?_
  exact .cons same.1 (.cons same .nil)

end Replacement

namespace Suite

variable {suite : Suite (Label × Action State)} {silent : Bool} {formatter : Formatter Kept Error}
  {initial : Kept} {state : State}

/-- A run that isolates makes all calls of its course, or none if its formatter panics at the start,
and the report that it returns is that of its course. -/
theorem observe_isolating (suite : Suite (Label × Action State)) (silent : Bool)
    (formatter : Formatter Kept Error) (initial : Kept) (state : State) :
    let seen := suite.observe (.isolating silent) formatter initial state
    (∀ report, seen.result = .ok report → report = suite.reportOf formatter initial state) ∧
      (formatter.Opens initial suite.testCount →
        seen.notes = Note.inTurn (calls (suite.chronicle settling state))) ∧
      (¬ formatter.Opens initial suite.testCount → seen.notes = []) := by
  intro seen
  have contained := cut?_isolating silent (suite.chronicle settling state)
  have begins := story_course suite state
  rw [List.cons_append] at begins
  have ends := formatter.endures_take_or_panicsAt initial (suite.course settling state).2.story
    (suite.course settling state).2.story.length
  rw [List.take_length] at ends
  rcases ends with endures | ⟨number, payload, panics⟩
  · have whole : seen = _ := observe_of_whole contained endures
    rw [begins] at endures
    rw [whole]
    exact ⟨fun report same => (Except.ok.inj same).symm, fun _ => rfl,
      fun closed => absurd (Formatter.opens_of_endures endures) closed⟩
  · have stopped : seen = _ := observe_of_panicsAt contained panics
    rw [stopped]
    refine ⟨nofun, ?_⟩
    rw [begins] at panics
    cases number with
    | zero =>
      obtain ⟨_, event, found, panicked⟩ := panics
      obtain rfl := Option.some.inj found
      exact ⟨fun opens => absurd panicked (opens payload), fun _ => rfl⟩
    | succ number =>
      have opens := Formatter.opens_of_endures panics.1
      exact ⟨fun _ => rfl, fun closed => absurd opens closed⟩

/-- A run that isolates and whose formatter never panics returns a report. -/
theorem exists_observe_of_calm (calm : formatter.Calm) :
    ∃ report, (suite.observe (.isolating silent) formatter initial state).result = .ok report :=
  ⟨_, congrArg Observation.result
    (observe_of_whole (cut?_isolating silent _) (calm.endures initial _))⟩

/-- The tests of a course are those of the suite. -/
theorem length_outcomesBelow_course (suite : Suite (Label × Action State)) (state : State) :
    (suite.course settling state).2.outcomesBelow.length = suite.testCount := by
  have story := story_course suite state
  rw [ReportNode.story, List.cons_append, List.cons_append, List.cons.injEq] at story
  exact Event.runStart.inj story.1

variable [DecidableEq Label]

/-- The suite with another action in the place of a label. -/
def replace (suite : Suite (Label × Action State)) (label : Label) (action : Action State) :
    Suite (Label × Action State) :=
  suite.map fun entry => if entry.1 = label then (entry.1, action) else entry

/-- What the runs of the two suites have in common, if the tests of the suite are orderly. -/
theorem observe_within {replacement : Replacement Label State View} {leeway : Leeway Label}
    (orderly : ∀ place ∈ suite.root.walk 0, ∀ test ∈ place.2.tests,
      replacement.Orderly leeway place.2.hooks test) (silent : Bool)
    (formatter : Formatter Kept Error) (initial : Kept) (state : State) :
    let replaced := suite.replace replacement.label replacement.action
    suite.root.Within leeway (suite.course settling state).2 (replaced.course settling state).2 ∧
      List.Forall₂ (Note.AlikeBut replacement.label)
        ((suite.observe (.isolating silent) formatter initial state).notes.filter fun note =>
          note.label ∉ replacement.dependent)
        ((replaced.observe (.isolating silent) formatter initial state).notes.filter fun note =>
          note.label ∉ replacement.dependent) := by
  intro replaced
  have agree : replacement.Agree state state := fun _ _ => rfl
  obtain ⟨_, within, lines⟩ := agree.both_groups 0 suite.root orderly
  refine ⟨within, ?_⟩
  obtain ⟨_, called, uncalled⟩ := suite.observe_isolating silent formatter initial state
  obtain ⟨_, calledToo, uncalledToo⟩ := replaced.observe_isolating silent formatter initial state
  have tests : replaced.testCount = suite.testCount := Group.testCount_map _ suite.root
  rw [tests] at calledToo uncalledToo
  by_cases opens : formatter.Opens initial suite.testCount
  · rw [called opens, calledToo opens]
    exact lines.notes
  · rw [uncalled opens, uncalledToo opens]
    exact .nil

/-- If an action is replaced by one that leaves the others alone, all entries of the suite are
regular. -/
theorem regular_of_independent {replacement : Replacement Label State View}
    (independent : suite.Independent replacement.view)
    (aloof : WritesOwn replacement.view (replacement.label, replacement.action))
    {entry : Label × Action State} (member : entry ∈ suite.root.actions) :
    replacement.Regular entry := by
  refine ⟨independent.reads entry member, independent.writes entry member, ?_⟩
  by_cases here : entry.1 = replacement.label
  · have changed : replacement.change entry = (replacement.label, replacement.action) := by
      unfold Replacement.change
      rw [if_pos here, here]
    rw [changed]
    exact aloof
  · rw [Replacement.change_of_ne here]
    exact independent.writes entry member

/-- To see that the tests of a suite are orderly, it is left to look at the labels. -/
theorem orderly_of_independent {replacement : Replacement Label State View}
    {leeway : Leeway Label} (independent : suite.Independent replacement.view)
    (aloof : WritesOwn replacement.view (replacement.label, replacement.action))
    {place : Nat × Group (Label × Action State)} (reached : place ∈ suite.root.walk 0)
    {test : Test (Label × Action State)} (own : test ∈ place.2.tests)
    (depends : ∀ label, place.2.HookedBy .beforeEach label → replacement.Affects label →
      test.action.1 ∈ replacement.dependent)
    (status : ∀ label ∈ place.2.testLabels, replacement.Affects label → leeway.status label)
    (teardown : ∀ label, place.2.HookedBy .afterEach label → replacement.Affects label →
      leeway.teardown label) :
    replacement.Orderly leeway place.2.hooks test := by
  have regular : ∀ entry ∈ place.2.ownActions, replacement.Regular entry := fun entry member =>
    regular_of_independent independent aloof (Group.mem_actions_of_walk reached member)
  exact {
    around := fun entry member => regular entry (List.mem_append_left _ member)
    own := regular _ (List.mem_append_right _ (List.mem_map_of_mem own))
    depends := fun hook found => depends hook.1 ⟨hook.2, found⟩
    status := status _ (List.mem_map_of_mem own)
    teardown := fun hook found => teardown hook.1 ⟨hook.2, found⟩ }

/-! ### The three kinds of places -/

section

variable {view : Label → State → View} {label : Label} {action : Action State}
  {place : Nat × Group (Label × Action State)}

/-- The action of a test decides nothing but the status of this test. -/
theorem orderly_of_test (distinct : (suite.root.actions.map Prod.fst).Nodup)
    (independent : suite.Independent view) (aloof : WritesOwn view (label, action))
    (reached : place ∈ suite.root.walk 0) (tested : label ∈ place.2.testLabels) :
    ∀ other ∈ suite.root.walk 0, ∀ test ∈ other.2.tests,
      (Replacement.mk label action view []).Orderly ⟨(· = label), fun _ => False⟩ other.2.hooks
        test := by
  intro other otherReached test own
  have hookless : ∀ slot affected, other.2.HookedBy slot affected →
      ¬ (Replacement.mk label action view []).Affects affected := by
    rintro slot affected hooked (rfl | dependent)
    · exact Group.not_mem_testLabels_of_hookedBy distinct otherReached reached hooked tested
    · exact List.not_mem_nil dependent
  refine orderly_of_independent independent aloof otherReached own ?_ ?_ ?_
  · exact fun affected hooked affects => absurd affects (hookless _ affected hooked)
  · exact fun affected _ affects => affects.resolve_right List.not_mem_nil
  · exact fun affected hooked affects => absurd affects (hookless _ affected hooked)

/-- A before-each hook decides nothing but the statuses of the tests of its group. -/
theorem orderly_of_beforeEach (distinct : (suite.root.actions.map Prod.fst).Nodup)
    (independent : suite.Independent view) (aloof : WritesOwn view (label, action))
    (reached : place ∈ suite.root.walk 0) (hooked : place.2.HookedBy .beforeEach label) :
    ∀ other ∈ suite.root.walk 0, ∀ test ∈ other.2.tests,
      (Replacement.mk label action view place.2.testLabels).Orderly
        ⟨(· ∈ place.2.testLabels), fun _ => False⟩ other.2.hooks test := by
  intro other otherReached test own
  refine orderly_of_independent independent aloof otherReached own ?_ ?_ ?_
  · rintro affected hookedToo (rfl | dependent)
    · obtain ⟨rfl, _⟩ := Group.hook_unique distinct otherReached reached hookedToo hooked
      exact List.mem_map_of_mem own
    · exact absurd dependent
        (Group.not_mem_testLabels_of_hookedBy distinct otherReached reached hookedToo)
  · rintro affected tested (rfl | dependent)
    · exact absurd tested
        (Group.not_mem_testLabels_of_hookedBy distinct reached otherReached hooked)
    · exact dependent
  · rintro affected hookedToo (rfl | dependent)
    · exact HookSlot.noConfusion (Group.hook_unique distinct otherReached reached hookedToo hooked).2
    · exact Group.not_mem_testLabels_of_hookedBy distinct otherReached reached hookedToo dependent

/-- An after-each hook decides nothing but the teardowns of the tests of its group. -/
theorem orderly_of_afterEach (distinct : (suite.root.actions.map Prod.fst).Nodup)
    (independent : suite.Independent view) (aloof : WritesOwn view (label, action))
    (reached : place ∈ suite.root.walk 0) (hooked : place.2.HookedBy .afterEach label) :
    ∀ other ∈ suite.root.walk 0, ∀ test ∈ other.2.tests,
      (Replacement.mk label action view []).Orderly ⟨fun _ => False, (· = label)⟩ other.2.hooks
        test := by
  intro other otherReached test own
  refine orderly_of_independent independent aloof otherReached own ?_ ?_ ?_
  · rintro affected hookedToo (rfl | dependent)
    · exact HookSlot.noConfusion (Group.hook_unique distinct otherReached reached hookedToo hooked).2
    · exact absurd dependent List.not_mem_nil
  · rintro affected tested (rfl | dependent)
    · exact Group.not_mem_testLabels_of_hookedBy distinct reached otherReached hooked tested
    · exact absurd dependent List.not_mem_nil
  · exact fun affected _ affects => affects.resolve_right List.not_mem_nil

/-- Two suites differ in one action, no action of the first one reads what another one writes, and
the new action writes nothing that the others read. If it is the action of a test, only the status
of this test may differ, so the numbers of passed tests differ by one at most, and all calls are the
same but for the results of the replaced action. If it is a before-each hook, only the statuses of
the tests of its group may differ, and the calls but those of these tests are the same. If it is an
after-each hook, only the teardowns of the tests of its group may differ. Both runs return reports
if their formatter never panics. -/
theorem observe_replace (suite : Suite (Label × Action State)) (label : Label)
    (action : Action State) (view : Label → State → View) (silent : Bool)
    (formatter : Formatter Kept Error) (initial : Kept) (state : State)
    (distinct : (suite.root.actions.map Prod.fst).Nodup) (independent : suite.Independent view)
    (aloof : WritesOwn view (label, action)) :
    let one := suite.observe (.isolating silent) formatter initial state
    let other := (suite.replace label action).observe (.isolating silent) formatter initial state
    (formatter.Calm → (∃ report, one.result = .ok report) ∧ ∃ changed, other.result = .ok changed) ∧
      ∀ place ∈ suite.root.walk 0,
        (label ∈ place.2.testLabels →
          List.Forall₂ (Note.AlikeBut label) one.notes other.notes ∧
            ∀ report changed, one.result = .ok report → other.result = .ok changed →
              suite.root.Within ⟨(· = label), fun _ => False⟩ report.root changed.root ∧
                report.total = changed.total ∧
                report.passed ≤ changed.passed + 1 ∧ changed.passed ≤ report.passed + 1) ∧
        (place.2.HookedBy .beforeEach label →
          List.Forall₂ (Note.AlikeBut label)
              (one.notes.filter fun note => note.label ∉ place.2.testLabels)
              (other.notes.filter fun note => note.label ∉ place.2.testLabels) ∧
            ∀ report changed, one.result = .ok report → other.result = .ok changed →
              suite.root.Within ⟨(· ∈ place.2.testLabels), fun _ => False⟩ report.root
                changed.root ∧ report.total = changed.total) ∧
        (place.2.HookedBy .afterEach label →
          List.Forall₂ (Note.AlikeBut label) one.notes other.notes ∧
            ∀ report changed, one.result = .ok report → other.result = .ok changed →
              suite.root.Within ⟨fun _ => False, (· = label)⟩ report.root changed.root ∧
                report.total = changed.total ∧ report.passed = changed.passed ∧
                report.exitCode = changed.exitCode) := by
  intro one other
  have total : (suite.reportOf formatter initial state).total =
      ((suite.replace label action).reportOf formatter initial state).total :=
    (length_outcomesBelow_course suite state).trans
      ((Group.testCount_map _ suite.root).symm.trans (length_outcomesBelow_course _ state).symm)
  obtain ⟨reported, _⟩ := suite.observe_isolating silent formatter initial state
  obtain ⟨reportedToo, _⟩ :=
    (suite.replace label action).observe_isolating silent formatter initial state
  refine ⟨fun calm => ⟨exists_observe_of_calm calm, exists_observe_of_calm calm⟩, ?_⟩
  intro place reached
  refine ⟨fun tested => ?_, fun hooked => ?_, fun hooked => ?_⟩
  · obtain ⟨within, notes⟩ := observe_within
      (orderly_of_test distinct independent aloof reached tested) silent formatter initial state
    obtain ⟨_, above, below⟩ := Group.Within.counts suite.root within
    have once := Group.countP_testsBelow_le_one distinct label
    rw [Note.filter_not_mem_nil, Note.filter_not_mem_nil] at notes
    refine ⟨notes, fun report changed returned returnedToo => ?_⟩
    obtain rfl := reported report returned
    obtain rfl := reportedToo changed returnedToo
    exact ⟨within, total, Nat.le_trans above (Nat.add_le_add_left once _),
      Nat.le_trans below (Nat.add_le_add_left once _)⟩
  · obtain ⟨within, notes⟩ := observe_within
      (orderly_of_beforeEach distinct independent aloof reached hooked) silent formatter initial
      state
    refine ⟨notes, fun report changed returned returnedToo => ?_⟩
    obtain rfl := reported report returned
    obtain rfl := reportedToo changed returnedToo
    exact ⟨within, total⟩
  · obtain ⟨within, notes⟩ := observe_within
      (orderly_of_afterEach distinct independent aloof reached hooked) silent formatter initial
      state
    rw [Note.filter_not_mem_nil, Note.filter_not_mem_nil] at notes
    refine ⟨notes, fun report changed returned returnedToo => ?_⟩
    obtain rfl := reported report returned
    obtain rfl := reportedToo changed returnedToo
    have passed : (suite.reportOf formatter initial state).passed =
        ((suite.replace label action).reportOf formatter initial state).passed :=
      within.passedCount_eq fun _ _ => id
    refine ⟨within, total, passed, ?_⟩
    rw [Report.exitCode, Report.exitCode, Report.isSuccess, Report.isSuccess, Report.failed,
      Report.failed, total, passed]

end

/-- An action that counts its calls under its label and ends as the count asks for. -/
def tallying (label : String) (answer : Nat → Except Payload Verdict) : Action (String → Nat) :=
  .blocking fun counts =>
    ⟨[], Function.update counts label (counts label + 1), answer (counts label)⟩

theorem settle_tallying (label : String) (answer : Nat → Except Payload Verdict)
    (counts : String → Nat) :
    (tallying label answer).settle counts =
      (Function.update counts label (counts label + 1), answer (counts label)) := by
  unfold tallying Action.settle
  simp only [Action.call, Immediate.run, Immediate.bind]
  cases answer (counts label) <;> rfl

/-- Actions that count their calls under their own labels neither read nor write anything else. -/
theorem independent_of_tallying {suite : Suite (String × Action (String → Nat))}
    (tallies : ∀ entry ∈ suite.root.actions, ∃ label answer, entry = (label, tallying label answer)) :
    suite.Independent fun label counts => counts label := by
  constructor
  · intro entry member first second same
    obtain ⟨label, answer, rfl⟩ := tallies entry member
    dsimp only at same ⊢
    rw [settle_tallying, settle_tallying, same]
    exact ⟨rfl, (Function.update_self label _ first).trans (Function.update_self label _ second).symm⟩
  · intro entry member reader other counts
    obtain ⟨label, answer, rfl⟩ := tallies entry member
    rw [settle_tallying]
    exact Function.update_of_ne other _ _

/-- A suite whose actions count their calls: a test of the root, and two tests between hooks, the
second of which fails. -/
def counting : Suite (String × Action (String → Nat)) :=
  ⟨⟨none, [⟨"alone", ("alone", tallying "alone" fun _ => .ok .success)⟩],
    [⟨some "inner", [⟨"first", ("first", tallying "first" fun _ => .ok .success)⟩,
        ⟨"second", ("second", tallying "second" fun count => .ok (.error (toString count)))⟩], [],
      ⟨some ("before", tallying "before" fun _ => .ok .success),
        some ("after", tallying "after" fun _ => .ok .success)⟩⟩], .empty⟩⟩

/-- An action that panics when it is polled for the second time. -/
def lost : Action (String → Nat) := .asynchronous (pure (.pending (.unwind (.text "gone"))))

/-- The action is lost in the place of a test, of the hook before the tests of the inner group, and
of the hook behind them. -/
theorem observe_replace_counting :
    (counting.root.actions.map Prod.fst).Nodup ∧
      counting.Independent (fun label counts => counts label) ∧
      (∃ report changed,
        (counting.observe .standard picky () fun _ => 0).result = .ok report ∧
        ((counting.replace "first" lost).observe .standard picky () fun _ => 0).result =
          .ok changed ∧
        (report.passed = 2 ∧ changed.passed = 1) ∧
        counting.root.Within ⟨(· = "first"), fun _ => False⟩ report.root changed.root) ∧
      (∃ report changed,
        (counting.observe .standard picky () fun _ => 0).result = .ok report ∧
        ((counting.replace "before" lost).observe .standard picky () fun _ => 0).result =
          .ok changed ∧
        (report.passed = 2 ∧ changed.passed = 1) ∧
        counting.root.Within ⟨(· ∈ ["first", "second"]), fun _ => False⟩ report.root
          changed.root) ∧
      ∃ report changed,
        (counting.observe .standard picky () fun _ => 0).result = .ok report ∧
        ((counting.replace "after" lost).observe .standard picky () fun _ => 0).result =
          .ok changed ∧
        report.passed = changed.passed ∧
        counting.root.Within ⟨fun _ => False, (· = "after")⟩ report.root changed.root ∧
        changed.root.find? ["inner", "first"] =
          some ⟨.passed, some ⟨.afterEach, .panicked "gone"⟩⟩ := by
  have distinct : (counting.root.actions.map Prod.fst).Nodup := by decide +kernel
  have independent : counting.Independent fun label counts => counts label := by
    refine independent_of_tallying (List.forall_mem_cons.mpr ⟨⟨_, _, rfl⟩, ?_⟩)
    refine List.forall_mem_cons.mpr ⟨⟨_, _, rfl⟩, List.forall_mem_cons.mpr ⟨⟨_, _, rfl⟩, ?_⟩⟩
    refine List.forall_mem_cons.mpr ⟨⟨_, _, rfl⟩, List.forall_mem_cons.mpr ⟨⟨_, _, rfl⟩, ?_⟩⟩
    exact List.forall_mem_nil _
  have replaced := fun label => observe_replace counting label lost
    (fun label counts => counts label) true picky () (fun _ => 0) distinct independent
    (fun _ _ _ => rfl)
  have inner := List.getElem_mem (show 1 < (counting.root.walk 0).length from Nat.one_lt_two)
  have read : ∀ {Value : Type} (look : Report String → Value)
      {result : Except Payload (Report String)} {report : Report String} {value : Value},
      result = .ok report → result.map look = .ok value → look report = value := by
    rintro Value look _ report value rfl looked
    exact Except.ok.inj looked
  refine ⟨distinct, independent, ?_, ?_, ?_⟩
  · obtain ⟨returns, places⟩ := replaced "first"
    obtain ⟨⟨report, returned⟩, changed, returnedToo⟩ := returns picky_calm
    obtain ⟨_, bounds⟩ := (places _ inner).1 List.mem_cons_self
    exact ⟨report, changed, returned, returnedToo,
      ⟨read Report.passed returned rfl, read Report.passed returnedToo rfl⟩,
      (bounds report changed returned returnedToo).1⟩
  · obtain ⟨returns, places⟩ := replaced "before"
    obtain ⟨⟨report, returned⟩, changed, returnedToo⟩ := returns picky_calm
    obtain ⟨_, bounds⟩ := (places _ inner).2.1 ⟨_, rfl⟩
    exact ⟨report, changed, returned, returnedToo,
      ⟨read Report.passed returned rfl, read Report.passed returnedToo rfl⟩,
      (bounds report changed returned returnedToo).1⟩
  · obtain ⟨returns, places⟩ := replaced "after"
    obtain ⟨⟨report, returned⟩, changed, returnedToo⟩ := returns picky_calm
    obtain ⟨_, bounds⟩ := (places _ inner).2.2 ⟨_, rfl⟩
    obtain ⟨within, _, same, _⟩ := bounds report changed returned returnedToo
    exact ⟨report, changed, returned, returnedToo, same, within,
      read (fun report => report.root.find? ["inner", "first"]) returnedToo rfl⟩

end Suite

end TestTree
