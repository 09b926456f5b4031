/-
This file proves which calls a run makes, and when.

To see the calls of a run, every action of its suite is marked with a label. A marked action does
what the action does, and beside this it notes on a list of its own when it begins and when it has
ended, at whichever poll that is and also when it panics. The notes of a run are those of the
plain course of its suite, each beginning followed by its own end, so no call begins before the
one before it has ended.
-/

import TestTree.Proofs.Run.Conclusion
import TestTree.Proofs.Run.Tracking

namespace TestTree

variable {State Label Kept Error : Type}

/-! ### Marked actions -/

/-- What a marked action notes about itself. -/
inductive Mark (Label : Type) where
  | begun (label : Label)
  | ended (label : Label)
deriving DecidableEq

namespace Mark

/-- The notes of calls of which none begins before the one before it has ended. -/
def inTurn (calls : List Label) : List (Mark Label) :=
  calls.flatMap fun label => [.begun label, .ended label]

theorem inTurn_append_singleton (calls : List Label) (label : Label) :
    inTurn (calls ++ [label]) = inTurn calls ++ [.begun label, .ended label] := by
  simp only [inTurn, List.flatMap_append, List.flatMap_singleton]

end Mark

/-- The same action, which notes when it begins and when it has ended, and nothing of how. -/
def Action.marked (label : Label) (action : Action State) : Action (State × List (Mark Label)) :=
  action.noting (.begun label) fun _ _ => .ended label

/-- A marked action comes to what the action comes to, and has noted its beginning and its end. -/
theorem Action.settle_marked (label : Label) (action : Action State) (state : State)
    (marks : List (Mark Label)) :
    (action.marked label).settle (state, marks) =
      (((action.settle state).1, marks ++ [.begun label, .ended label]),
        (action.settle state).2) := by
  rw [marked, settle_noting]

/-! ### The calls of a course -/

/-- Call a labelled action and note its label. -/
def Course.noted (entry : Label × Action State) (before : State × List Label) :
    (State × List Label) × Except Cause Unit :=
  (((entry.2.answer before.1).1, before.2 ++ [entry.1]), (entry.2.answer before.1).2)

/-- Without its labels, a suite takes the course that it takes with them. -/
theorem Course.group_unlabelled (group : Group (Label × Action State)) (state : State)
    (calls : List Label) :
    Course.group Action.answer (group.map Prod.snd) state =
      (Course.group Course.noted group (state, calls)).map Prod.fst id :=
  Course.group_map Prod.snd Prod.fst (fun _ _ => rfl) group (state, calls)

/-- The marks on the actions are the calls of the course, one after another. -/
theorem Course.group_marked (group : Group (Label × Action State)) (state : State)
    (calls : List Label) :
    Course.group Action.answer (group.map fun entry => entry.2.marked entry.1)
        (state, Mark.inTurn calls) =
      (Course.group Course.noted group (state, calls)).map
        (fun reached => (reached.1, Mark.inTurn reached.2)) id := by
  refine Course.group_map (fun entry => entry.2.marked entry.1)
    (fun reached : State × List Label => (reached.1, Mark.inTurn reached.2)) ?_ group
    (state, calls)
  intro entry before
  simp only [Course.noted, Action.answer, Action.settle_marked, Mark.inTurn_append_singleton,
    Prod.map, id]

/-! ### Runs -/

namespace Runner

/-- With a boundary that isolates and a formatter that gets through, a run returns a report, and
this report, the calls that the run makes, and the state that they leave are those of the plain
course of its suite. Each call has ended when the next one begins. -/
theorem run_follows_course (suite : Suite (Label × Action State)) (silent : Bool)
    (formatter : Formatter Kept Error) (initial : Kept) (state : State)
    (endures : formatter.Endures initial (Course.group Course.noted suite.root (state, [])).2.story) :
    ∃ report : Report Error,
      report.root = (Course.group Course.noted suite.root (state, [])).2 ∧
      (Runner.mk (suite.map Prod.snd) (.isolating silent) formatter initial).run.Yields state
        report (Course.group Course.noted suite.root (state, [])).1.1 ∧
      (Runner.mk (suite.map fun entry => entry.2.marked entry.1) (.isolating silent) formatter
          initial).run.Yields (state, []) report
        ((Course.group Course.noted suite.root (state, [])).1.1,
          Mark.inTurn (Course.group Course.noted suite.root (state, [])).1.2) := by
  have plain := Course.group_unlabelled suite.root state ([] : List Label)
  have marked := Course.group_marked suite.root state ([] : List Label)
  obtain ⟨tally, executed⟩ := Execution.yields_executeGroup silent 0 (suite.root.map Prod.snd) state
    .zero
  obtain ⟨books, witnessed⟩ := Execution.yields_executeGroup silent 0
    (suite.root.map fun entry => entry.2.marked entry.1) (state, []) .zero
  rw [plain] at executed
  rw [show ([] : List (Mark Label)) = Mark.inTurn [] from rfl, marked] at witnessed
  refine ⟨_, rfl, (yields_run_root_iff _ _ _ _).mpr ⟨_, tally, executed, endures, rfl⟩,
    (yields_run_root_iff _ _ _ _).mpr ⟨_, books, witnessed, endures, rfl⟩⟩

/-- A suite in which nothing goes well: the hook before each test suspends, counts its calls, and
fails when it is called again, the first test panics when it is started, and the test of the
child, which has no hooks, panics at its third poll. -/
def failing : Suite (String × Action Nat) :=
  ⟨⟨none,
    [⟨"first", ("first", .asynchronous (Immediate.panic (.raised (.text "gone"))))⟩,
      ⟨"second", ("second", .blocking (pure .success))⟩],
    [⟨some "inner", [⟨"third", ("third", .asynchronous (pure
      ((Future.suspend 2).bind fun () => .unwind .other)))⟩], [], .empty⟩],
    ⟨some ("before", .asynchronous (pure (.pending (.read fun count => .write (count + 1)
        (.ready (if count = 0 then .success else .error "twice")))))),
      some ("after", .blocking (pure (.error "late")))⟩⟩⟩

/-- The report of the failing suite on its root. -/
def failingRoot : ReportNode :=
  ⟨none, [("first", ⟨.failed ⟨.test, .panicked "gone"⟩, some ⟨.afterEach, .error "late"⟩⟩),
      ("second", ⟨.failed ⟨.beforeEach, .error "twice"⟩, some ⟨.afterEach, .error "late"⟩⟩)],
    [⟨some "inner", [("third", ⟨.failed ⟨.test, .panicked "non-string panic payload"⟩, none⟩)], [],
      false⟩], false⟩

theorem run_follows_course_failing :
    (Formatter.silent : Formatter Unit Empty).Endures () failingRoot.story ∧
      ∃ report : Report Empty, report.root = failingRoot ∧
        (Runner.mk (failing.map Prod.snd) .standard .silent ()).run.Yields 0 report 2 ∧
        (Runner.mk (failing.map fun entry => entry.2.marked entry.1) .standard .silent ()).run.Yields
          (0, []) report
          (2, Mark.inTurn ["before", "first", "after", "before", "after", "third"]) :=
  ⟨rfl, run_follows_course failing true .silent () 0 rfl⟩

end Runner

end TestTree
