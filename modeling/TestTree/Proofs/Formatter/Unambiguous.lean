/-
This file proves that what is printed of a run can be taken for nothing else.

The text of a report consists of the rows of its sketch, then a blank line, and then the counts. If
no name contains a line feed, every row is indented and ends at the first line feed, whatever the
messages of the tests are. So the rows are the lines in front of the first one that is not indented,
and they determine the sketch.
-/

import TestTree.Proofs.Formatter.Rendering
import TestTree.Proofs.Formatter.Sketch
import TestTree.Proofs.Report.Decoding

namespace TestTree

open Text

namespace Text

/-! ### Rows in a text -/

/-- Rows with a line feed behind each of them. -/
def unrows (rows : List (List Char)) : List Char := rows.flatMap (· ++ ['\n'])

theorem unrows_cons (row : List Char) (rows : List (List Char)) :
    unrows (row :: rows) = row ++ '\n' :: unrows rows := by
  rw [unrows, List.flatMap_cons, List.append_assoc]
  rfl

theorem unrows_append (first second : List (List Char)) :
    unrows (first ++ second) = unrows first ++ unrows second := List.flatMap_append

/-- A row that is indented and is not cut in two. -/
structure Inner (row : List Char) : Prop where
  indented : row.head? = some ' '
  single : '\n' ∉ row

theorem inner_blanks (depth : Nat) {text : List Char} (single : '\n' ∉ text) :
    Inner (blanks (depth + 1) ++ text) := by
  refine ⟨rfl, fun member => ?_⟩
  rcases List.mem_append.mp member with blank | own
  · exact absurd (List.eq_of_mem_replicate blank) (by decide)
  · exact single own

/-- A row without a line feed ends at the first one. -/
theorem append_feed_inj {row other rest more : List Char} (single : '\n' ∉ row)
    (otherSingle : '\n' ∉ other) (same : row ++ '\n' :: rest = other ++ '\n' :: more) :
    row = other ∧ rest = more := by
  induction row generalizing other with
  | nil =>
    cases other with
    | nil => exact ⟨rfl, List.tail_eq_of_cons_eq same⟩
    | cons char other =>
      obtain ⟨rfl, _⟩ := List.cons.inj same
      exact absurd List.mem_cons_self otherSingle
  | cons char row inductionHypothesis =>
    cases other with
    | nil =>
      obtain ⟨rfl, _⟩ := List.cons.inj same
      exact absurd List.mem_cons_self single
    | cons otherChar other =>
      obtain ⟨rfl, following⟩ := List.cons.inj same
      obtain ⟨rfl, left⟩ := inductionHypothesis (mt (List.mem_cons_of_mem _) single)
        (mt (List.mem_cons_of_mem _) otherSingle) following
      exact ⟨rfl, left⟩

/-- A row that is indented is not the blank line that ends the rows. -/
theorem Inner.ne_feed {row : List Char} (inner : Inner row) {rest more : List Char}
    (same : row ++ rest = '\n' :: more) : False := by
  cases row with
  | nil => cases inner.indented
  | cons char row =>
    obtain ⟨rfl, _⟩ := List.cons.inj same
    exact inner.single List.mem_cons_self

/-- The indented rows in front of the first blank line can be read off a text. -/
theorem unrows_unique {first second : List (List Char)} (inner : ∀ row ∈ first, Inner row)
    (otherInner : ∀ row ∈ second, Inner row) {rest more : List Char}
    (same : unrows first ++ '\n' :: rest = unrows second ++ '\n' :: more) : first = second := by
  induction first generalizing second with
  | nil =>
    cases second with
    | nil => rfl
    | cons row rows =>
      rw [unrows_cons, List.append_assoc] at same
      exact ((otherInner row List.mem_cons_self).ne_feed same.symm).elim
  | cons row rows inductionHypothesis =>
    obtain ⟨own, others⟩ := List.forall_mem_cons.mp inner
    cases second with
    | nil =>
      rw [unrows_cons, List.append_assoc] at same
      exact (own.ne_feed same).elim
    | cons otherRow otherRows =>
      obtain ⟨otherOwn, otherOthers⟩ := List.forall_mem_cons.mp otherInner
      rw [unrows_cons, unrows_cons, List.append_assoc, List.append_assoc] at same
      obtain ⟨rfl, following⟩ := append_feed_inj own.single otherOwn.single same
      rw [inductionHypothesis others otherOthers following]

theorem feed_ne_mark (passed : Bool) : '\n' ≠ mark passed := by
  cases passed <;> decide

/-- The lines of a text are not cut in two. -/
theorem not_mem_of_mem_lines {text piece : String} (member : piece ∈ lines text) :
    '\n' ∉ piece.toList := by
  obtain ⟨chars, found, rfl⟩ := List.mem_map.mp member
  rw [String.toList_ofList]
  have splits := splitsInto_linesOf text.toList
  generalize text.toList = whole, linesOf text.toList = pieces at splits found
  induction splits with
  | nothing => exact absurd found List.not_mem_nil
  | unended line filled single => exact List.mem_singleton.mp found ▸ single
  | feed line rest pieces single bare others inductionHypothesis =>
    rcases List.mem_cons.mp found with rfl | found
    · exact single
    · exact inductionHypothesis found
  | returnFeed line rest pieces single others inductionHypothesis =>
    rcases List.mem_cons.mp found with rfl | found
    · exact single
    · exact inductionHypothesis found

end Text

/-! ### Sketches of reports -/

/-- The lines that are printed of a failure. A message without lines still gets a blank one. -/
def Failure.notes : Option Failure → List String
  | none => []
  | some failure => match lines failure.display with
    | [] => [""]
    | pieces => pieces

/-- What is printed of an outcome: the lines of the failure of the test, and behind them those of
the failure of its after-each hook. -/
def Outcome.sketch (name : String) (outcome : Outcome) : TestSketch :=
  ⟨name, outcome.isPassed,
    Failure.notes outcome.status.failure? ++ Failure.notes outcome.teardown⟩

namespace ReportNode

mutual

/-- What is printed of a report. -/
def sketch : ReportNode → Sketch
  | ⟨name, outcomes, children, _⟩ =>
    ⟨name, outcomes.map fun entry => entry.2.sketch entry.1, sketches children⟩

/-- What is printed of several reports. -/
def sketches : List ReportNode → List Sketch
  | [] => []
  | report :: rest => report.sketch :: sketches rest

end

end ReportNode

/-! ### Texts of reports -/

namespace Text

theorem toList_row (depth : Nat) (text : String) :
    (row depth text).toList = blanks depth ++ text.toList ++ ['\n'] := by
  rw [row, String.toList_append, String.toList_append]
  show (String.ofList _).toList ++ _ ++ _ = _
  rw [String.toList_ofList]
  rfl

theorem toList_render? (depth : Nat) (failure : Option Failure) :
    (Failure.render? depth failure).toList =
      unrows ((Failure.notes failure).map fun note => blanks depth ++ note.toList) := by
  cases failure with
  | none => rfl
  | some failure =>
    rw [Failure.render?, Failure.notes, rows]
    cases lines failure.display with
    | nil => exact (toList_row depth "").trans (List.append_nil _).symm
    | cons first others =>
      simp only [String.toList_join, unrows, List.flatMap_map, toList_row]

end Text

theorem Outcome.toList_render (depth : Nat) (name : String) (outcome : Outcome) :
    (outcome.render depth name).toList = unrows ((outcome.sketch name).rows depth) := by
  have heading : ((if outcome.isPassed then "✓ " else "✗ ") ++ name).toList =
      mark outcome.isPassed :: ' ' :: name.toList := by
    rw [String.toList_append]
    cases outcome.isPassed <;> rfl
  rw [render, String.toList_append, String.toList_append, toList_row, heading, toList_render?,
    toList_render?, sketch, TestSketch.rows, List.map_append, unrows_cons, unrows_append]
  simp only [List.append_assoc, List.cons_append, List.nil_append]

namespace ReportNode

theorem toList_headline (depth : Nat) (name : Option String) :
    (headline depth name).toList = unrows (Sketch.headRows depth name) := by
  cases name with
  | none => rfl
  | some name => exact (toList_row depth name).trans (List.append_nil _).symm

theorem toList_join_outcomes (depth : Nat) (outcomes : List (String × Outcome)) :
    (String.join (outcomes.map fun entry => entry.2.render depth entry.1)).toList =
      unrows ((outcomes.map fun entry => entry.2.sketch entry.1).flatMap
        (TestSketch.rows depth)) := by
  induction outcomes with
  | nil => rfl
  | cons entry rest inductionHypothesis =>
    rw [List.map_cons, List.map_cons, String.join_cons, String.toList_append, inductionHypothesis,
      Outcome.toList_render, List.flatMap_cons, unrows_append]

mutual

/-- The text of a report consists of the rows of its sketch. -/
theorem toList_render (depth : Nat) : (report : ReportNode) →
    (report.render depth).toList = unrows (report.sketch.rows depth)
  | ⟨name, outcomes, children, _⟩ => by
    rw [render, String.toList_append, String.toList_append, toList_headline, toList_join_outcomes,
      toList_renderAll (depth + 1) children, sketch, Sketch.rows, unrows_append, unrows_append,
      List.append_assoc]

theorem toList_renderAll (depth : Nat) : (reports : List ReportNode) →
    (renderAll depth reports).toList = unrows (Sketch.rowsAll depth (sketches reports))
  | [] => rfl
  | report :: rest => by
    rw [renderAll, String.toList_append, toList_render depth report, toList_renderAll depth rest,
      sketches, Sketch.rowsAll, unrows_append]

end

end ReportNode

/-- The text of a whole report has a blank line behind the rows. -/
theorem Report.toList_render {Error : Type} (report : Report Error) :
    ∃ counts, report.render.toList =
      unrows (report.root.sketch.rows 0) ++ '\n' :: counts := by
  rw [render]
  simp only [String.toList_append, ReportNode.toList_render, List.append_assoc]
  exact ⟨_, rfl⟩

/-! ### Legible names -/

/-- No name contains a line feed, and no name of a group starts with a blank or with a mark. -/
inductive Outline.Legible : Outline → Prop where
  | node (name : Option String) (tests : List String) (children : List Outline)
      (heading : ∀ text ∈ name, Heading text.toList ∧ '\n' ∉ text.toList)
      (single : ∀ test ∈ tests, '\n' ∉ test.toList)
      (below : ∀ child ∈ children, child.Legible) : Legible ⟨name, tests, children⟩

theorem inner_notes (depth : Nat) {failure : Option Failure} {note : String}
    (member : note ∈ Failure.notes failure) : Inner (blanks (depth + 1) ++ note.toList) := by
  refine inner_blanks depth ?_
  cases failure with
  | none => exact absurd member List.not_mem_nil
  | some failure =>
    rw [Failure.notes] at member
    split at member
    · rw [List.mem_singleton.mp member]
      exact List.not_mem_nil
    · exact not_mem_of_mem_lines member

/-- The rows of a test are not cut in two, whatever its messages are. -/
theorem Outcome.inner_rows (depth : Nat) {name : String} (single : '\n' ∉ name.toList)
    (outcome : Outcome) : ∀ row ∈ (outcome.sketch name).rows (depth + 1), Inner row := by
  refine List.forall_mem_cons.mpr ⟨inner_blanks depth ?_, fun row member => ?_⟩
  · intro member
    rcases List.mem_cons.mp member with marked | member
    · exact feed_ne_mark outcome.isPassed marked
    · exact single ((List.mem_cons.mp member).resolve_left (by decide))
  · obtain ⟨note, noted, rfl⟩ := List.mem_map.mp member
    rcases List.mem_append.mp noted with own | teardown
    · exact inner_notes (depth + 1) own
    · exact inner_notes (depth + 1) teardown

namespace ReportNode

theorem inner_tests (depth : Nat) {outcomes : List (String × Outcome)}
    (single : ∀ test ∈ outcomes.map Prod.fst, '\n' ∉ test.toList) :
    ∀ row ∈ (outcomes.map fun entry => entry.2.sketch entry.1).flatMap
      (TestSketch.rows (depth + 1)), Inner row := by
  intro row member
  obtain ⟨test, tested, member⟩ := List.mem_flatMap.mp member
  obtain ⟨entry, entered, rfl⟩ := List.mem_map.mp tested
  exact entry.2.inner_rows depth (single entry.1 (List.mem_map_of_mem entered)) row member

mutual

/-- The rows of a legible report below the root are indented and are not cut in two. -/
theorem inner_rows (depth : Nat) : (report : ReportNode) → report.outline.Legible →
    ∀ row ∈ report.sketch.rows (depth + 1), Inner row
  | ⟨name, outcomes, children, _⟩, .node _ _ _ heading single below => by
    rw [sketch, Sketch.rows]
    refine List.forall_mem_append.mpr ⟨?_, List.forall_mem_append.mpr
      ⟨inner_tests (depth + 1) single, inner_rowsAll (depth + 1) children below⟩⟩
    intro row member
    cases name with
    | none => exact absurd member List.not_mem_nil
    | some name =>
      rw [List.mem_singleton.mp member]
      exact inner_blanks depth (heading name rfl).2

theorem inner_rowsAll (depth : Nat) : (reports : List ReportNode) →
    (∀ outline ∈ outlines reports, outline.Legible) →
      ∀ row ∈ Sketch.rowsAll (depth + 1) (sketches reports), Inner row
  | [], _ => fun row member => absurd member List.not_mem_nil
  | report :: rest, legible => by
    rw [outlines] at legible
    obtain ⟨own, others⟩ := List.forall_mem_cons.mp legible
    rw [sketches, Sketch.rowsAll]
    exact List.forall_mem_append.mpr ⟨inner_rows depth report own,
      inner_rowsAll depth rest others⟩

end

mutual

/-- The names of a legible report are headings. -/
theorem headed_sketch : (report : ReportNode) → report.outline.Named → report.outline.Legible →
    report.sketch.Headed
  | ⟨_, _, children, _⟩, .node name _ _ named, .node _ _ _ heading _ below => by
    rw [sketch]
    exact .node name _ _ (heading name rfl).1 (headed_sketches children named below)

theorem headed_sketches : (reports : List ReportNode) →
    (∀ outline ∈ outlines reports, outline.Named) →
      (∀ outline ∈ outlines reports, outline.Legible) →
        ∀ sketch ∈ sketches reports, sketch.Headed
  | [], _, _ => fun sketch member => absurd member List.not_mem_nil
  | report :: rest, named, legible => by
    rw [outlines] at named legible
    obtain ⟨own, others⟩ := List.forall_mem_cons.mp named
    obtain ⟨legibleOwn, legibleOthers⟩ := List.forall_mem_cons.mp legible
    rw [sketches]
    exact List.forall_mem_cons.mpr ⟨headed_sketch report own legibleOwn,
      headed_sketches rest others legibleOthers⟩

end

/-- The sketch of a whole report can be read off the text that begins with its rows. -/
theorem sketch_unique {first second : ReportNode} (rooted : first.outline.Rooted)
    (otherRooted : second.outline.Rooted) (legible : first.outline.Legible)
    (otherLegible : second.outline.Legible) {rest more : List Char}
    (same : unrows (first.sketch.rows 0) ++ '\n' :: rest =
      unrows (second.sketch.rows 0) ++ '\n' :: more) : first.sketch = second.sketch := by
  obtain ⟨name, outcomes, children, _⟩ := first
  obtain ⟨otherName, otherOutcomes, otherChildren, _⟩ := second
  obtain ⟨rfl, named⟩ := rooted
  obtain ⟨rfl, otherNamed⟩ := otherRooted
  cases legible with
  | node _ _ _ _ single below =>
  cases otherLegible with
  | node _ _ _ _ otherSingle otherBelow =>
    have inner := List.forall_mem_append.mpr
      ⟨inner_tests 0 single, inner_rowsAll 0 children below⟩
    have otherInner := List.forall_mem_append.mpr
      ⟨inner_tests 0 otherSingle, inner_rowsAll 0 otherChildren otherBelow⟩
    have rows := unrows_unique inner otherInner same
    -- The rows of the children are followed by nothing, and so the list of children ends there.
    have last : ∀ depth, Below depth [] := fun depth row member => nomatch member
    have headed := headed_sketches children named below
    have otherHeaded := headed_sketches otherChildren otherNamed otherBelow
    have after : Below 2 (Sketch.rowsAll 1 (sketches children)) :=
      List.append_nil (Sketch.rowsAll 1 (sketches children)) ▸ Sketch.below_rowsAll (last 2) headed
    have otherAfter : Below 2 (Sketch.rowsAll 1 (sketches otherChildren)) :=
      List.append_nil (Sketch.rowsAll 1 (sketches otherChildren)) ▸
        Sketch.below_rowsAll (last 2) otherHeaded
    obtain ⟨tests, groups⟩ := tests_unique after otherAfter rows
    obtain ⟨reports, _⟩ := Sketch.rowsAll_unique 1 _ _ headed otherHeaded (last 1) (last 1)
      (congrArg (· ++ []) groups)
    rw [sketch, sketch, tests, reports]

end ReportNode

/-! ### Runs that print the same -/

namespace Text

theorem bytes_injective {first second : String} (same : bytes first = bytes second) :
    first = second := by
  unfold bytes at same
  exact String.toByteArray_inj.mp (ByteArray.ext (Array.toList_inj.mp same))

end Text

namespace Printer

open Formatter

/-- A run of a suite prints an output if it prints without colors to a target that takes
everything, returns a report, and leaves the target with the output behind what it took before. -/
inductive Prints {State : Type} (suite : Suite (Action State)) (report : Report IoError)
    (output : List UInt8) : Prop where
  | of {Target : Type} {sink : Sink Target} {IsOpen : Target → Prop}
      {written : Target → List UInt8} (accepting : sink.Accepting IsOpen written)
      {target left : Target} (isOpen : IsOpen target) {boundary : Boundary} {setting : Coloring}
      {before after : State}
      (conducted : (Runner.mk suite boundary (formatter sink) ⟨target, .never⟩).conduct.Yields
        before ⟨⟨left, setting⟩, .ok report⟩ after)
      (taken : written left = written target ++ output)

/-- What a run prints is the text of its report. -/
theorem Prints.eq_render {State : Type} {suite : Suite (Action State)} {report : Report IoError}
    {output : List UInt8} (prints : Prints suite report output) :
    output = bytes report.render ∧ report.root.outline = suite.root.outline := by
  cases prints with
  | of accepting isOpen conducted taken =>
    obtain ⟨_, text, outline⟩ := taken_of_conducted accepting isOpen conducted
    exact ⟨List.append_cancel_left (taken.symm.trans text), outline⟩

/-- A run that isolates its actions prints its report to a target without troubles, if the
indentations fit. -/
theorem prints_of_fits {State : Type} (suite : Suite (Action State)) (silent : Bool)
    {target : FaultyTarget} (untroubled : Untroubled target)
    (fit : ∀ entry ∈ suite.root.walk 0, fits (entry.1 + 2) = true) (before : State) :
    let runner := Runner.mk suite (.isolating silent) (formatter FaultyTarget.sink) ⟨target, .never⟩
    let report := runner.reportOf (Course.group Action.answer suite.root before).2
    Prints suite report (bytes report.render) := by
  intro runner report
  obtain ⟨⟨left, setting⟩, conducted⟩ := (Runner.yields_run_iff _ _ _ _).mp
    (yields_run_of_fits suite silent ⟨target, .never⟩ fit before)
  exact .of accepting_untroubled untroubled conducted
    (taken_of_conducted accepting_untroubled untroubled conducted).2.1

/-- Two runs of legible suites with the same output have printed the same: the same groups with the
same names in the same order, the same tests in the same groups with the same verdicts, and the same
lines below each test. -/
theorem output_determines_sketch {State OtherState : Type} {suite : Suite (Action State)}
    {other : Suite (Action OtherState)} {report otherReport : Report IoError}
    {output : List UInt8} (prints : Prints suite report output)
    (otherPrints : Prints other otherReport output) (rooted : suite.root.outline.Rooted)
    (otherRooted : other.root.outline.Rooted) (legible : suite.root.outline.Legible)
    (otherLegible : other.root.outline.Legible) :
    report.root.sketch = otherReport.root.sketch := by
  obtain ⟨text, outline⟩ := prints.eq_render
  obtain ⟨otherText, otherOutline⟩ := otherPrints.eq_render
  have same : report.render.toList = otherReport.render.toList :=
    congrArg String.toList (bytes_injective (text.symm.trans otherText))
  obtain ⟨counts, first⟩ := report.toList_render
  obtain ⟨otherCounts, second⟩ := otherReport.toList_render
  rw [first, second] at same
  rw [← outline] at rooted legible
  rw [← otherOutline] at otherRooted otherLegible
  exact ReportNode.sketch_unique rooted otherRooted legible otherLegible same

/-- A suite with the names of the talkative one. It panics where the talkative one returns errors,
and its messages are split into the same lines in other ways. -/
def gruff : Suite (Action Nat) :=
  ⟨⟨none, [⟨"silent", .blocking (Immediate.panic (.raised (.text "\n")))⟩],
    [⟨some "math", [⟨"adds", .blocking (pure .success)⟩,
      ⟨"fails", .blocking (Immediate.panic (.raised (.text "left\n\r\nright\r")))⟩], [],
      ⟨none, some (.blocking (Immediate.panic (.raised (.text "late\r\n"))))⟩⟩], .empty⟩⟩

/-- A target that takes everything that is offered. -/
def swift : FaultyTarget := ⟨false, none, none, [], #[], 0⟩

theorem legible_talkative : talkative.root.outline.Legible := by
  have root : ∀ text ∈ (none : Option String), Heading text.toList ∧ '\n' ∉ text.toList :=
    fun text member => nomatch member
  have math : ∀ text ∈ some "math", Heading text.toList ∧ '\n' ∉ text.toList := by
    rintro _ ⟨⟩
    exact ⟨⟨by decide, by decide⟩, by decide⟩
  refine .node _ _ _ root (by decide) fun child member => ?_
  rw [List.mem_singleton.mp member]
  exact .node _ _ _ math (by decide) fun child member => absurd member List.not_mem_nil

theorem rooted_talkative : talkative.root.outline.Rooted := by
  refine ⟨rfl, fun child member => ?_⟩
  rw [List.mem_singleton.mp member]
  exact .node _ _ _ fun child member => absurd member List.not_mem_nil

theorem output_determines_sketch_talkative :
    ∃ report otherReport, Prints talkative report (bytes talkativeText) ∧
      Prints gruff otherReport (bytes talkativeText) ∧
      report.root.outcomes ≠ otherReport.root.outcomes ∧
      report.root.sketch = otherReport.root.sketch := by
  have prints := prints_of_fits talkative true (show Untroubled slow from ⟨rfl, by decide, rfl⟩)
    (by decide) ()
  have otherPrints := prints_of_fits gruff false
    (show Untroubled swift from ⟨rfl, by decide, rfl⟩) (by decide) 0
  have text : (Runner.reportOf (Runner.mk talkative (.isolating true) (formatter FaultyTarget.sink)
      ⟨slow, .never⟩) (Course.group Action.answer talkative.root ()).2).render = talkativeText := by
    decide +kernel
  have otherText : (Runner.reportOf (Runner.mk gruff (.isolating false)
      (formatter FaultyTarget.sink) ⟨swift, .never⟩)
      (Course.group Action.answer gruff.root 0).2).render = talkativeText := by
    decide +kernel
  simp only [text] at prints
  simp only [otherText] at otherPrints
  refine ⟨_, _, prints, otherPrints, by decide +kernel, ?_⟩
  exact output_determines_sketch prints otherPrints rooted_talkative rooted_talkative
    legible_talkative legible_talkative

end Printer

end TestTree
