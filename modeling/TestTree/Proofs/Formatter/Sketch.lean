/-
This file proves that a tree can be read off the rows in which it is printed.

A sketch is what is printed of a report: the names of its groups, its tests with their marks, and
the lines below each test. Every row stands behind blanks, two for each level. A row that does not
belong to the lines below a test is a heading with at most as many blanks as the test, and a row
below the test has two more of them at least, whatever stands in it. So the lines below a test end
where the first heading or the next test stands, and the depth of a heading says which groups end
with it.
-/

import TestTree.Text.Lines

namespace TestTree

namespace Text

/-! ### Blanks -/

/-- The blanks in front of a row at a depth. -/
def blanks (depth : Nat) : List Char := List.replicate (2 * depth) ' '

theorem blanks_add (depth more : Nat) : blanks (depth + more) = blanks depth ++ blanks more := by
  unfold blanks
  rw [Nat.mul_add, List.replicate_append_replicate]

/-- A row that has no further blank is not a row at a greater depth. -/
theorem blanks_ne_deeper {depth deeper : Nat} (less : depth < deeper) {text : List Char}
    (unindented : text.head? ≠ some ' ') (other : List Char) :
    blanks depth ++ text ≠ blanks deeper ++ other := by
  intro same
  obtain ⟨more, rfl⟩ := Nat.exists_eq_add_of_lt less
  rw [Nat.add_assoc, blanks_add, List.append_assoc, List.append_cancel_left_eq] at same
  rw [same] at unindented
  exact unindented rfl

/-- The mark of a test. -/
def mark : Bool → Char
  | true => '✓'
  | false => '✗'

theorem mark_injective {first second : Bool} (same : mark first = mark second) :
    first = second := by
  cases first <;> cases second
  case false.false => rfl
  case true.true => rfl
  all_goals exact absurd same (by decide)

theorem mark_ne_blank (passed : Bool) : mark passed ≠ ' ' := by
  cases passed <;> decide

/-- A text that starts neither with a blank nor with a mark. -/
structure Heading (text : List Char) : Prop where
  unindented : text.head? ≠ some ' '
  unmarked : ∀ passed, text.head? ≠ some (mark passed)

/-- The first row, if there is one, is a heading at a depth less than this one. -/
def Below (depth : Nat) (rows : List (List Char)) : Prop :=
  ∀ row ∈ rows.head?, ∃ level < depth, ∃ name, Heading name ∧ row = blanks level ++ name

theorem Below.mono {depth deeper : Nat} {rows : List (List Char)} (below : Below depth rows)
    (le : depth ≤ deeper) : Below deeper rows := by
  intro row first
  obtain ⟨level, less, name, heading, same⟩ := below row first
  exact ⟨level, Nat.lt_of_lt_of_le less le, name, heading, same⟩

/-- The first row, if there is one, has fewer blanks than rows at this depth. -/
def Shallow (depth : Nat) (rows : List (List Char)) : Prop :=
  ∀ row ∈ rows.head?, ∀ text, row ≠ blanks depth ++ text

theorem Below.shallow {depth : Nat} {rows : List (List Char)} (below : Below depth rows) :
    Shallow depth rows := by
  intro row first text
  obtain ⟨level, less, name, heading, rfl⟩ := below row first
  exact blanks_ne_deeper less heading.unindented text

/-- A heading is not a test one level deeper or at its own level. -/
theorem Below.ne_test {depth : Nat} {text : List Char} {passed : Bool} {rows : List (List Char)}
    (below : Below (depth + 1) ((blanks depth ++ mark passed :: text) :: rows)) : False := by
  obtain ⟨level, less, name, heading, same⟩ := below _ rfl
  rcases Nat.lt_or_eq_of_le (Nat.le_of_lt_succ less) with shallower | rfl
  · exact blanks_ne_deeper shallower heading.unindented _ same.symm
  · obtain rfl := List.append_cancel_left same
    exact heading.unmarked passed rfl

end Text

open Text

/-! ### Sketches -/

/-- What is printed of a test: its name, its mark, and the lines below it. -/
structure TestSketch where
  name : String
  passed : Bool
  notes : List String

/-- What is printed of a group. -/
structure Sketch where
  name : Option String
  tests : List TestSketch
  children : List Sketch

/-- The rows of a test at a depth. -/
def TestSketch.rows (depth : Nat) (test : TestSketch) : List (List Char) :=
  (blanks depth ++ mark test.passed :: ' ' :: test.name.toList) ::
    test.notes.map fun note => blanks (depth + 1) ++ note.toList

namespace Sketch

/-- The row of the name of a group, if it has one. -/
def headRows (depth : Nat) : Option String → List (List Char)
  | none => []
  | some name => [blanks depth ++ name.toList]

mutual

/-- The rows of a group at a depth. -/
def rows (depth : Nat) : Sketch → List (List Char)
  | ⟨name, tests, children⟩ =>
    headRows depth name ++
      (tests.flatMap (TestSketch.rows (depth + 1)) ++ rowsAll (depth + 1) children)

/-- The rows of several groups at a depth. -/
def rowsAll (depth : Nat) : List Sketch → List (List Char)
  | [] => []
  | sketch :: rest => sketch.rows depth ++ rowsAll depth rest

end

/-- The group and all groups below it have names that are headings. -/
inductive Headed : Sketch → Prop where
  | node (name : String) (tests : List TestSketch) (children : List Sketch)
      (heading : Heading name.toList) (below : ∀ child ∈ children, child.Headed) :
      Headed ⟨some name, tests, children⟩

end Sketch

/-! ### Reading tests -/

section

variable {depth : Nat} {rest more : List (List Char)}

/-- The lines below a test end at the first row with fewer blanks. -/
theorem notes_unique {notes others : List String} (shallow : Shallow depth rest)
    (alsoShallow : Shallow depth more)
    (same : (notes.map fun note => blanks depth ++ note.toList) ++ rest =
      (others.map fun note => blanks depth ++ note.toList) ++ more) :
    notes = others ∧ rest = more := by
  induction notes generalizing others with
  | nil =>
    cases others with
    | nil => exact ⟨rfl, same⟩
    | cons other others =>
      obtain rfl : rest = (blanks depth ++ other.toList) :: _ := same
      exact absurd rfl (shallow _ rfl _)
  | cons note notes inductionHypothesis =>
    cases others with
    | nil =>
      obtain rfl : (blanks depth ++ note.toList) :: _ = more := same
      exact absurd rfl (alsoShallow _ rfl _)
    | cons other others =>
      obtain ⟨first, following⟩ := List.cons.inj same
      obtain ⟨rfl, left⟩ := inductionHypothesis following
      obtain rfl := String.toList_injective (List.append_cancel_left first)
      exact ⟨rfl, left⟩

/-- Behind the lines of a test stands another test or a heading. -/
theorem shallow_tests (below : Below (depth + 1) rest) (tests : List TestSketch) :
    Shallow (depth + 1) (tests.flatMap (TestSketch.rows depth) ++ rest) := by
  cases tests with
  | nil => exact below.shallow
  | cons test tests =>
    rintro row ⟨⟩ text
    refine blanks_ne_deeper (Nat.lt_succ_self depth) ?_ text
    exact fun blank => mark_ne_blank test.passed (Option.some.inj blank)

/-- The tests of a group end at the first heading. -/
theorem tests_unique {tests others : List TestSketch} (below : Below (depth + 1) rest)
    (alsoBelow : Below (depth + 1) more)
    (same : tests.flatMap (TestSketch.rows depth) ++ rest =
      others.flatMap (TestSketch.rows depth) ++ more) : tests = others ∧ rest = more := by
  induction tests generalizing others with
  | nil =>
    cases others with
    | nil => exact ⟨rfl, same⟩
    | cons other others =>
      obtain rfl : rest = (blanks depth ++ mark other.passed :: _) :: _ := same
      exact below.ne_test.elim
  | cons test tests inductionHypothesis =>
    cases others with
    | nil =>
      obtain rfl : (blanks depth ++ mark test.passed :: _) :: _ = more := same
      exact alsoBelow.ne_test.elim
    | cons other others =>
      rw [List.flatMap_cons, List.flatMap_cons, List.append_assoc, List.append_assoc] at same
      obtain ⟨first, following⟩ := List.cons.inj same
      obtain ⟨notes, further⟩ :=
        notes_unique (shallow_tests below tests) (shallow_tests alsoBelow others) following
      obtain ⟨rfl, left⟩ := inductionHypothesis further
      obtain ⟨passed, name⟩ := List.cons.inj (List.append_cancel_left first)
      obtain ⟨_, name⟩ := List.cons.inj name
      refine ⟨?_, left⟩
      congr 1
      obtain ⟨testName, testPassed, testNotes⟩ := test
      rw [TestSketch.mk.injEq]
      exact ⟨String.toList_injective name, mark_injective passed, notes⟩

end

/-! ### Reading groups -/

namespace Sketch

theorem below_rowsAll {depth : Nat} {rest : List (List Char)} (below : Below (depth + 1) rest)
    {sketches : List Sketch} (headed : ∀ sketch ∈ sketches, sketch.Headed) :
    Below (depth + 1) (rowsAll depth sketches ++ rest) := by
  cases sketches with
  | nil => exact below
  | cons sketch others =>
    cases headed sketch List.mem_cons_self with
    | node name tests children heading =>
      rintro row ⟨⟩
      exact ⟨depth, Nat.lt_succ_self depth, name.toList, heading, rfl⟩

/-- The heading of a group is not less deep than the group. -/
theorem Headed.not_below {sketch : Sketch} (headed : sketch.Headed) {depth : Nat}
    {others : List Sketch} {rest : List (List Char)}
    (below : Below depth (rowsAll depth (sketch :: others) ++ rest)) : False := by
  cases headed with
  | node name tests children heading =>
    exact below.shallow _ rfl name.toList rfl

mutual

/-- A group can be read off the rows that begin with it, if what follows is not deeper. -/
theorem rows_unique (depth : Nat) :
    (first second : Sketch) → first.Headed → second.Headed → {rest more : List (List Char)} →
      Below (depth + 1) rest → Below (depth + 1) more →
      first.rows depth ++ rest = second.rows depth ++ more → first = second ∧ rest = more
  | ⟨_, tests, children⟩, ⟨_, otherTests, otherChildren⟩, .node name _ _ _ headed,
      .node otherName _ _ _ otherHeaded, rest, more, below, alsoBelow, same => by
    simp only [rows, headRows, List.cons_append, List.nil_append, List.append_assoc,
      List.cons.injEq] at same
    obtain ⟨first, following⟩ := same
    obtain rfl := String.toList_injective (List.append_cancel_left first)
    -- Behind the tests stands the heading of the first child or, without children, what follows.
    have after := below_rowsAll (below.mono (Nat.le_succ _)) headed
    have alsoAfter := below_rowsAll (alsoBelow.mono (Nat.le_succ _)) otherHeaded
    obtain ⟨rfl, further⟩ := tests_unique after alsoAfter following
    obtain ⟨rfl, left⟩ := rowsAll_unique (depth + 1) children otherChildren headed otherHeaded below
      alsoBelow further
    exact ⟨rfl, left⟩

/-- Several groups can be read off the rows that begin with them, if what follows is less deep. -/
theorem rowsAll_unique (depth : Nat) :
    (first second : List Sketch) → (∀ sketch ∈ first, sketch.Headed) →
      (∀ sketch ∈ second, sketch.Headed) → {rest more : List (List Char)} →
      Below depth rest → Below depth more →
      rowsAll depth first ++ rest = rowsAll depth second ++ more → first = second ∧ rest = more
  | [], [], _, _, _, _, _, _, same => ⟨rfl, same⟩
  | [], second :: _, _, headed, rest, _, below, _, same => by
    obtain rfl : rest = _ := same
    exact ((headed second List.mem_cons_self).not_below below).elim
  | first :: _, [], headed, _, _, more, _, below, same => by
    obtain rfl : _ = more := same
    exact ((headed first List.mem_cons_self).not_below below).elim
  | first :: others, second :: further, headed, otherHeaded, rest, more, below, alsoBelow, same => by
    obtain ⟨own, siblings⟩ := List.forall_mem_cons.mp headed
    obtain ⟨otherOwn, otherSiblings⟩ := List.forall_mem_cons.mp otherHeaded
    rw [rowsAll, rowsAll, List.append_assoc, List.append_assoc] at same
    obtain ⟨report, following⟩ := rows_unique depth first second own otherOwn
      (below_rowsAll (below.mono (Nat.le_succ depth)) siblings)
      (below_rowsAll (alsoBelow.mono (Nat.le_succ depth)) otherSiblings) same
    obtain ⟨reports, left⟩ := rowsAll_unique depth others further siblings otherSiblings below
      alsoBelow following
    exact ⟨by rw [report, reports], left⟩

end

end Sketch

end TestTree
