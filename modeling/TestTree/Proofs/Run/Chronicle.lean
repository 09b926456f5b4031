/-
This file writes down a course occurrence by occurrence.

What happens in a course are calls, and outcomes and groups that are told of. The chronicle has
both in the order in which they happen, with the state that each call leaves and the way it ended.
At a boundary that lets panics through, a run is cut off at the first call that panics. Where that
is can be read off the chronicle, and so can the outcome that the call would have led to: the next
thing told after a call is the outcome of its test, and a panic of the call is recorded in it.
-/

import TestTree.Proofs.Run.Call
import TestTree.Proofs.Run.Course

namespace TestTree

variable {Act State : Type}

/-! ### Calls and occurrences -/

/-- A call of an action: which one it was, the state that it left, and how it ended. -/
structure Call (Act State : Type) where
  act : Act
  left : State
  ended : Except Payload Verdict

namespace Call

/-- The call of an action on a state. -/
def of (settle : Act → State → State × Except Payload Verdict) (act : Act) (state : State) :
    Call Act State :=
  ⟨act, (settle act state).1, (settle act state).2⟩

/-- The payload of a call that panicked. -/
def panic? (call : Call Act State) : Option Payload :=
  match call.ended with
  | .ok _ => none
  | .error payload => some payload

end Call

/-- What happens in a course: an action is called in some phase of a test, or an event is told. -/
inductive Occurrence (Act State : Type) where
  | called (test : String) (phase : Phase) (call : Call Act State)
  | told (event : Event)

namespace Occurrence

/-- The call, if the occurrence is one. -/
def call? : Occurrence Act State → Option (Call Act State)
  | .called _ _ call => some call
  | .told _ => none

/-- The event, if one is told. -/
def event? : Occurrence Act State → Option Event
  | .called .. => none
  | .told event => some event

/-- The calls of a number of occurrences, in order. -/
def calls (line : List (Occurrence Act State)) : List (Call Act State) := line.filterMap call?

/-- The events of a number of occurrences, in order. -/
def events (line : List (Occurrence Act State)) : List Event := line.filterMap event?

theorem calls_append (first second : List (Occurrence Act State)) :
    calls (first ++ second) = calls first ++ calls second := List.filterMap_append

theorem events_append (first second : List (Occurrence Act State)) :
    events (first ++ second) = events first ++ events second := List.filterMap_append

/-- A call is not an event, so the events around it follow one another. -/
theorem events_split (earlier later : List (Occurrence Act State)) (test : String) (phase : Phase)
    (call : Call Act State) :
    events (earlier ++ .called test phase call :: later) = events earlier ++ events later :=
  events_append earlier (.called test phase call :: later)

theorem calls_split (earlier later : List (Occurrence Act State)) (test : String) (phase : Phase)
    (call : Call Act State) :
    calls (earlier ++ .called test phase call :: later) =
      calls earlier ++ [call] ++ calls later := by
  rw [List.append_assoc]
  exact calls_append earlier (.called test phase call :: later)

theorem calls_map_told (list : List Event) :
    calls (list.map (told : Event → Occurrence Act State)) = [] := by
  simp only [calls, List.filterMap_map, List.filterMap_eq_nil_iff, Function.comp, call?,
    implies_true]

theorem events_map_told (list : List Event) :
    events (list.map (told : Event → Occurrence Act State)) = list := by
  simp only [events, List.filterMap_map, Function.comp_def, event?, List.filterMap_some]

end Occurrence

/-! ### The chronicle of a course -/

namespace Course

open Occurrence

variable (settle : Act → State → State × Except Payload Verdict)

/-- What an action answers: success or a cause of failure, a panic being one. -/
def answer (act : Act) (state : State) : State × Except Cause Unit :=
  ((settle act state).1, Boundary.ofAttempt (settle act state).2)

/-- The call of a hook, if there is one. -/
def hookLine (test : String) (slot : HookSlot) : Option Act → State → List (Occurrence Act State)
  | none, _ => []
  | some hook, state => [.called test slot.phase (.of settle hook state)]

/-- The call of a test, if nothing failed before it. -/
def bodyLine (test : Test Act) : Option Cause → State → List (Occurrence Act State)
  | some _, _ => []
  | none, state => [.called test.name .test (.of settle test.action state)]

/-- The calls that a test consists of. -/
def testCalls (hooks : Hooks Act) (test : Test Act) (state : State) :
    List (Occurrence Act State) :=
  let (prepared, before) := hook (answer settle) hooks.beforeEach state
  let (tested, _) := body (answer settle) test before prepared
  hookLine settle test.name .beforeEach hooks.beforeEach state ++
    (bodyLine settle test before prepared ++
      hookLine settle test.name .afterEach hooks.afterEach tested)

/-- A test with its outcome, which is told when the last of its calls has ended. -/
def testLine (hooks : Hooks Act) (depth : Nat) (test : Test Act) (state : State) :
    List (Occurrence Act State) :=
  testCalls settle hooks test state ++
    [.told (.testOutcome test.name depth (Course.test (answer settle) hooks test state).2)]

/-- The tests of a group in order. -/
def testsLine (hooks : Hooks Act) (depth : Nat) :
    List (Test Act) → State → List (Occurrence Act State)
  | [], _ => []
  | first :: rest, state =>
    testLine settle hooks depth first state ++
      testsLine hooks depth rest (Course.test (answer settle) hooks first state).1

mutual

/-- A group: its header, its own tests, and then its children. -/
def chronicle (depth : Nat) : Group Act → State → List (Occurrence Act State)
  | ⟨name, list, children, hooks⟩, state =>
    (ReportNode.header name depth).map .told ++
      (testsLine settle hooks (depth + 1) list state ++
        chronicleAll (depth + 1) children (tests (answer settle) hooks list state).1)

/-- Groups one after another. -/
def chronicleAll (depth : Nat) : List (Group Act) → State → List (Occurrence Act State)
  | [], _ => []
  | first :: rest, state =>
    chronicle depth first state ++
      chronicleAll depth rest (group (answer settle) first state).1

end

end Course

/-! ### Where a boundary ends a course -/

namespace Occurrence

/-- A course that ended early: what happened before, and the last call with its payload. -/
structure Cut (Act State : Type) where
  earlier : List (Occurrence Act State)
  call : Call Act State
  payload : Payload

/-- The same end when more happened before. -/
def Cut.behind (line : List (Occurrence Act State)) (cut : Cut Act State) : Cut Act State :=
  { cut with earlier := line ++ cut.earlier }

/-- Where the boundary ends a course: at the first call whose end it does not turn into a result,
if there is one. -/
def cut? (boundary : Boundary) : List (Occurrence Act State) → Option (Cut Act State)
  | [] => none
  | .told event :: rest => (cut? boundary rest).map (Cut.behind [.told event])
  | .called test phase call :: rest =>
    match boundary.pass call.ended with
    | .error payload => some ⟨[], call, payload⟩
    | .ok _ => (cut? boundary rest).map (Cut.behind [.called test phase call])

/-- Nothing ends early at a boundary that isolates. -/
theorem cut?_isolating (silent : Bool) (line : List (Occurrence Act State)) :
    cut? (.isolating silent) line = none := by
  induction line with
  | nil => rfl
  | cons first rest inductionHypothesis =>
    cases first <;> simp only [cut?, Boundary.pass, inductionHypothesis, Option.map_none]

/-- A course in two parts ends in the first one, or else in the second one if at all. -/
theorem cut?_append (boundary : Boundary) (first second : List (Occurrence Act State)) :
    cut? boundary (first ++ second) =
      match cut? boundary first with
      | some cut => some cut
      | none => (cut? boundary second).map (Cut.behind first) := by
  induction first with
  | nil => exact Option.map_id'.symm
  | cons occurrence rest inductionHypothesis =>
    have later : (cut? boundary (rest ++ second)).map (Cut.behind [occurrence]) =
        match (cut? boundary rest).map (Cut.behind [occurrence]) with
        | some cut => some cut
        | none => (cut? boundary second).map (Cut.behind (occurrence :: rest)) := by
      rw [inductionHypothesis]
      cases cut? boundary rest with
      | some cut => rfl
      | none => exact Option.map_map _ _ _
    cases occurrence with
    | told event => exact later
    | called test phase call =>
      simp only [List.cons_append, cut?]
      cases boundary.pass call.ended with
      | error payload => rfl
      | ok result => exact later

theorem cut?_map_told (boundary : Boundary) (list : List Event) :
    cut? boundary (list.map (told : Event → Occurrence Act State)) = none := by
  induction list with
  | nil => rfl
  | cons event rest inductionHypothesis =>
    simp only [List.map_cons, cut?, inductionHypothesis, Option.map_none]

/-- A course in which no call panics does not end early. -/
theorem cut?_eq_none {line : List (Occurrence Act State)}
    (calm : ∀ call ∈ calls line, call.panic? = none) : cut? .transparent line = none := by
  induction line with
  | nil => rfl
  | cons first rest inductionHypothesis =>
    have later : cut? .transparent rest = none := by
      refine inductionHypothesis fun call member => calm call ?_
      exact (calls_append [first] rest).symm ▸ List.mem_append_right _ member
    cases first with
    | told event => rw [cut?, later, Option.map_none]
    | called test phase call =>
      have quiet := calm call List.mem_cons_self
      unfold Call.panic? at quiet
      rw [cut?]
      cases ended : call.ended with
      | error payload =>
        rw [ended] at quiet
        cases quiet
      | ok verdict =>
        simp only [Boundary.pass, Except.map, later, Option.map_none]

/-- Panics let through, a course ends at the first call that panics. -/
theorem cut?_eq_some {earlier later : List (Occurrence Act State)} {test : String} {phase : Phase}
    {call : Call Act State} {payload : Payload}
    (calm : ∀ call ∈ calls earlier, call.panic? = none) (panicked : call.panic? = some payload) :
    cut? .transparent (earlier ++ .called test phase call :: later) =
      some ⟨earlier, call, payload⟩ := by
  have here : cut? .transparent (.called test phase call :: later) = some ⟨[], call, payload⟩ := by
    unfold Call.panic? at panicked
    rw [cut?]
    cases ended : call.ended with
    | ok verdict =>
      rw [ended] at panicked
      cases panicked
    | error thrown =>
      rw [ended] at panicked
      obtain rfl := Option.some.inj panicked
      rfl
  rw [cut?_append, cut?_eq_none calm, here]
  simp only [Option.map_some, Cut.behind, List.append_nil]

end Occurrence

/-! ### Outcomes account for calls -/

/-- The failures that an outcome records. -/
def Outcome.failures (outcome : Outcome) : List Failure :=
  outcome.status.failure?.toList ++ outcome.teardown.toList

namespace Occurrence

/-- After each call the next event is the outcome of its test, and if the call panicked, the
outcome says so. -/
def Accounted : List (Occurrence Act State) → Prop
  | [] => True
  | .told _ :: rest => Accounted rest
  | .called test phase call :: rest =>
    (∃ depth outcome further, events rest = .testOutcome test depth outcome :: further ∧
      ∀ payload, call.panic? = some payload →
        ⟨phase, .panicked payload.message⟩ ∈ outcome.failures) ∧ Accounted rest

theorem accounted_append {first second : List (Occurrence Act State)} (one : Accounted first)
    (two : Accounted second) : Accounted (first ++ second) := by
  induction first with
  | nil => exact two
  | cons occurrence rest inductionHypothesis =>
    cases occurrence with
    | told event => exact inductionHypothesis one
    | called test phase call =>
      obtain ⟨⟨depth, outcome, further, next, recorded⟩, others⟩ := one
      refine ⟨⟨depth, outcome, further ++ events second, ?_, recorded⟩, inductionHypothesis others⟩
      refine (events_append rest second).trans ?_
      rw [next, List.cons_append]

theorem accounted_later {first second : List (Occurrence Act State)}
    (both : Accounted (first ++ second)) : Accounted second := by
  induction first with
  | nil => exact both
  | cons occurrence rest inductionHypothesis =>
    cases occurrence with
    | told event => exact inductionHypothesis both
    | called test phase call => exact inductionHypothesis both.2

theorem accounted_map_told (list : List Event) :
    Accounted (list.map (told : Event → Occurrence Act State)) := by
  induction list with
  | nil => trivial
  | cons event rest inductionHypothesis => exact inductionHypothesis

/-- Calls of a test that are followed by its outcome are accounted for if the outcome records the
panics among them. -/
theorem accounted_calls {list : List (Occurrence Act State)} {name : String} (depth : Nat)
    {outcome : Outcome}
    (recorded : ∀ occurrence ∈ list, ∃ phase call, occurrence = .called name phase call ∧
      ∀ payload, call.panic? = some payload →
        ⟨phase, .panicked payload.message⟩ ∈ outcome.failures) :
    Accounted (list ++ [.told (.testOutcome name depth outcome)]) ∧
      events (list ++ [.told (.testOutcome name depth outcome)]) =
        [.testOutcome name depth outcome] := by
  induction list with
  | nil => exact ⟨trivial, rfl⟩
  | cons occurrence rest inductionHypothesis =>
    obtain ⟨⟨phase, call, rfl, panics⟩, others⟩ := List.forall_mem_cons.mp recorded
    obtain ⟨accounted, next⟩ := inductionHypothesis others
    exact ⟨⟨⟨depth, outcome, [], next, panics⟩, accounted⟩, next⟩

end Occurrence

namespace Course

open Occurrence

variable (settle : Act → State → State × Except Payload Verdict)

/-- A call that panicked is answered with its payload as a cause of failure. -/
theorem answer_of_panic {act : Act} {state : State} {payload : Payload}
    (panicked : (Call.of settle act state).panic? = some payload) :
    (answer settle act state).2 = .error (.panicked payload.message) := by
  unfold Call.panic? Call.of at panicked
  unfold answer
  cases ended : (settle act state).2 with
  | ok verdict =>
    rw [ended] at panicked
    cases panicked
  | error thrown =>
    rw [ended] at panicked
    obtain rfl := Option.some.inj panicked
    rfl

theorem hook_of_panic {act : Act} {state : State} {payload : Payload}
    (panicked : (Call.of settle act state).panic? = some payload) :
    (hook (answer settle) (some act) state).2 = some (.panicked payload.message) := by
  rw [hook, answer_of_panic settle panicked, cause?]

theorem body_of_panic {test : Test Act} {state : State} {payload : Payload}
    (panicked : (Call.of settle test.action state).panic? = some payload) :
    (body (answer settle) test none state).2 = .failed ⟨.test, .panicked payload.message⟩ := by
  rw [body, answer_of_panic settle panicked]
  rfl

theorem status_test (call : Act → State → State × Except Cause Unit) (hooks : Hooks Act)
    (test : Test Act) (state : State) :
    (Course.test call hooks test state).2.status =
      (body call test (hook call hooks.beforeEach state).2
        (hook call hooks.beforeEach state).1).2 := rfl

theorem teardown_test (call : Act → State → State × Except Cause Unit) (hooks : Hooks Act)
    (test : Test Act) (state : State) :
    (Course.test call hooks test state).2.teardown =
      (hook call hooks.afterEach (body call test (hook call hooks.beforeEach state).2
        (hook call hooks.beforeEach state).1).1).2.map fun cause => ⟨.afterEach, cause⟩ := rfl

/-- A panicking hook before a test decides its status, so does a panic of the test itself, and a
panicking hook after it is kept beside the status. -/
theorem accounted_testLine (hooks : Hooks Act) (depth : Nat) (test : Test Act) (state : State) :
    Accounted (testLine settle hooks depth test state) := by
  obtain ⟨beforeEach, afterEach⟩ := hooks
  refine (accounted_calls depth ?_).1
  intro occurrence member
  simp only [testCalls, List.mem_append] at member
  -- Each of the three calls decides one part of the outcome by itself when it panics.
  rcases member with before | tested | after
  · cases beforeEach with
    | none => exact absurd before List.not_mem_nil
    | some act =>
      obtain rfl := List.mem_singleton.mp before
      refine ⟨_, _, rfl, fun payload panicked => List.mem_append_left _ ?_⟩
      rw [status_test, hook_of_panic settle panicked]
      exact List.mem_cons_self
  · cases failed : (hook (answer settle) beforeEach state).2 with
    | some cause =>
      rw [failed] at tested
      exact absurd tested List.not_mem_nil
    | none =>
      rw [failed] at tested
      obtain rfl := List.mem_singleton.mp tested
      refine ⟨_, _, rfl, fun payload panicked => List.mem_append_left _ ?_⟩
      rw [status_test, failed, body_of_panic settle panicked]
      exact List.mem_cons_self
  · cases afterEach with
    | none => exact absurd after List.not_mem_nil
    | some act =>
      obtain rfl := List.mem_singleton.mp after
      refine ⟨_, _, rfl, fun payload panicked => List.mem_append_right _ ?_⟩
      rw [teardown_test, hook_of_panic settle panicked]
      exact List.mem_cons_self

theorem accounted_testsLine (hooks : Hooks Act) (depth : Nat) (list : List (Test Act))
    (state : State) : Accounted (testsLine settle hooks depth list state) := by
  induction list generalizing state with
  | nil => trivial
  | cons first rest inductionHypothesis =>
    exact accounted_append (accounted_testLine settle hooks depth first state)
      (inductionHypothesis _)

mutual

/-- In the chronicle of a group every call is accounted for. -/
theorem accounted_chronicle (depth : Nat) :
    (group : Group Act) → (state : State) → Accounted (chronicle settle depth group state)
  | ⟨name, list, children, hooks⟩, state => by
    rw [chronicle]
    refine accounted_append (accounted_map_told _) (accounted_append ?_ ?_)
    · exact accounted_testsLine settle hooks (depth + 1) list state
    · exact accounted_chronicleAll (depth + 1) children _

theorem accounted_chronicleAll (depth : Nat) :
    (groups : List (Group Act)) → (state : State) →
      Accounted (chronicleAll settle depth groups state)
  | [], _ => trivial
  | first :: rest, state => by
    rw [chronicleAll]
    exact accounted_append (accounted_chronicle depth first state)
      (accounted_chronicleAll depth rest _)

end

end Course

end TestTree
