/-
This file proves that an execution goes along the chronicle of its tree.

It goes along it up to the point where its boundary cuts it off, if there is such a point: it makes
the calls up to there, queues the events up to there, and then unwinds with the payload of the last
call. Otherwise it goes all the way and comes to the report of the plain course. The boundary is
left open in this, so whatever holds at one boundary because of what happens in the chronicle
holds at the other one up to the point where they part.

To see the calls, the actions of a tree may be replaced by others that work on a larger state and
note there what they come to. The tree itself is the case in which nothing is noted.
-/

import TestTree.Proofs.Run.Bookkeeping
import TestTree.Proofs.Run.Chronicle

namespace TestTree

open Occurrence

variable {Act State Larger Value Other : Type}
  {settle : Act → State → State × Except Payload Verdict}

/-! ### Instruments -/

/-- A way to put actions in the places of a tree: each comes to what is asked for on the state that
it finds, and what it notes beside that is determined by the calls so far. -/
structure Instrument (settle : Act → State → State × Except Payload Verdict) (Larger : Type) where
  change : Act → Action Larger
  embed : State → List (Call Act State) → Larger
  settle_change : ∀ act state log, (change act).settle (embed state log) =
    (embed (settle act state).1 (log ++ [.of settle act state]), (settle act state).2)

/-- Nothing is noted. -/
def Instrument.plain (change : Act → Action State) :
    Instrument (fun act => (change act).settle) State :=
  ⟨change, fun state _ => state, fun _ _ _ => rfl⟩

/-- A boundary that turns the end of a call into a result gives the same one as any other. -/
theorem Boundary.eq_ofAttempt_of_pass {boundary : Boundary} {ended : Except Payload Verdict}
    {result : Except Cause Unit} (passed : boundary.pass ended = .ok result) :
    result = Boundary.ofAttempt ended := by
  cases boundary with
  | isolating silent => exact (Except.ok.inj passed).symm
  | transparent =>
    cases ended with
    | error payload => cases passed
    | ok verdict => exact (Except.ok.inj passed).symm

namespace Execution

open Future Course

/-! ### Going along a line -/

/-- On a state the execution goes along a line of occurrences up to where the boundary ends it,
and if the boundary does not, it comes to the value and leaves the second state. -/
def Tracks (instrument : Instrument settle Larger) (boundary : Boundary)
    (execution : Execution Larger Value) (state : State) (line : List (Occurrence Act State))
    (value : Value) (after : State) : Prop :=
  ∀ (log : List (Call Act State)) (tally : Tally), ∃ books : Tally,
    match cut? boundary line with
    | none => books.queue = tally.queue ++ events line ∧
        execution.Yields (instrument.embed state log, tally) value
          (instrument.embed after (log ++ calls line), books)
    | some cut => books.queue = tally.queue ++ events cut.earlier ∧
        execution.Unwinds (instrument.embed state log, tally) cut.payload
          (instrument.embed cut.call.left (log ++ (calls cut.earlier ++ [cut.call])), books)

variable {instrument : Instrument settle Larger} {boundary : Boundary}

/-- What does not look at the state and queues some events tracks just these events. -/
theorem tracks_of_yields {execution : Execution Larger Value} {value : Value} (state : State)
    (list : List Event) (yields : ∀ place tally, ∃ books : Tally,
      books.queue = tally.queue ++ list ∧ execution.Yields (place, tally) value (place, books)) :
    Tracks instrument boundary execution state (list.map .told) value state := by
  intro log tally
  obtain ⟨books, queued, ran⟩ := yields (instrument.embed state log) tally
  refine ⟨books, ?_⟩
  rw [cut?_map_told, events_map_told, calls_map_told, List.append_nil]
  exact ⟨queued, ran⟩

/-- What leaves the books alone as well tracks nothing. -/
theorem tracks_quiet {execution : Execution Larger Value} {value : Value} (state : State)
    (yields : ∀ place tally, ∃ books : Tally,
      books.queue = tally.queue ∧ execution.Yields (place, tally) value (place, books)) :
    Tracks instrument boundary execution state [] value state := by
  refine tracks_of_yields state [] fun place tally => ?_
  obtain ⟨books, queued, ran⟩ := yields place tally
  exact ⟨books, queued.trans (List.append_nil _).symm, ran⟩

theorem tracks_pure (value : Value) (state : State) :
    Tracks instrument boundary (pure value) state [] value state :=
  tracks_quiet state fun _ tally => ⟨tally, rfl, (yields_pure_iff _ _ _ _).mpr ⟨rfl, rfl⟩⟩

/-- A sequence tracks a line in two parts. If the first part is cut off, the second one never
begins. -/
theorem Tracks.bind {execution : Execution Larger Value} {next : Value → Execution Larger Other}
    {state between after : State} {first second : List (Occurrence Act State)} {value : Value}
    {result : Other} (one : Tracks instrument boundary execution state first value between)
    (two : Tracks instrument boundary (next value) between second result after) :
    Tracks instrument boundary (execution >>= next) state (first ++ second) result after := by
  intro log tally
  obtain ⟨books, begun⟩ := one log tally
  rw [cut?_append]
  cases early : cut? boundary first with
  | some cut =>
    -- The first part unwinds, so what comes next is not asked for.
    rw [early] at begun
    exact ⟨books, begun.1, begun.2.bind next⟩
  | none =>
    rw [early] at begun
    obtain ⟨queued, yields⟩ := begun
    obtain ⟨further, continued⟩ := two (log ++ calls first) books
    refine ⟨further, ?_⟩
    cases late : cut? boundary second with
    | none =>
      rw [late] at continued
      obtain ⟨queuedMore, yieldsMore⟩ := continued
      rw [List.append_assoc, ← calls_append] at yieldsMore
      refine ⟨?_, yields.bind yieldsMore⟩
      rw [queuedMore, queued, List.append_assoc, ← events_append]
    | some cut =>
      rw [late] at continued
      obtain ⟨queuedMore, unwinds⟩ := continued
      rw [List.append_assoc, ← List.append_assoc (calls first), ← calls_append] at unwinds
      refine ⟨?_, yields.bind_unwinds unwinds⟩
      rw [queuedMore, queued, List.append_assoc, ← events_append]
      rfl

/-- What follows and tracks nothing adds nothing to the line. -/
theorem Tracks.bind_quiet {execution : Execution Larger Value}
    {next : Value → Execution Larger Other} {state between after : State}
    {line : List (Occurrence Act State)} {value : Value} {result : Other}
    (one : Tracks instrument boundary execution state line value between)
    (two : Tracks instrument boundary (next value) between [] result after) :
    Tracks instrument boundary (execution >>= next) state line result after := by
  have both := one.bind two
  rwa [List.append_nil] at both

theorem Tracks.within {execution : Execution Larger Value} {state after : State}
    {line : List (Occurrence Act State)} {value : Value}
    (tracks : Tracks instrument boundary execution state line value after) (name : String)
    (depth : Nat) :
    Tracks instrument boundary (within name depth execution) state line value after := by
  intro log tally
  obtain ⟨books, ran⟩ := tracks log tally
  refine ⟨books, ?_⟩
  cases ended : cut? boundary line with
  | none =>
    rw [ended] at ran
    exact ⟨ran.1, (yields_within_iff name depth _ _ _ _).mpr ran.2⟩
  | some cut =>
    rw [ended] at ran
    exact ⟨ran.1, (unwinds_instrument_iff name _ _ _ _).mpr ran.2⟩

/-! ### Tests -/

/-- A call through the boundary is one occurrence, and the boundary decides whether it is the last
one. -/
theorem tracks_perform (test : String) (phase : Phase) (act : Act) (state : State) :
    Tracks instrument boundary (perform boundary (instrument.change act)) state
      [.called test phase (.of settle act state)] (answer settle act state).2
      (answer settle act state).1 := by
  intro log tally
  obtain ⟨left, result⟩ :=
    complete_enclose boundary (instrument.change act) (instrument.embed state log)
  rw [instrument.settle_change] at left result
  have performed := complete_onFirst (boundary.enclose (instrument.change act).call).follow
    (instrument.embed state log) tally
  refine ⟨tally, ?_⟩
  cases passed : boundary.pass (settle act state).2 with
  | error payload =>
    have cut : cut? boundary [.called test phase (.of settle act state)] =
        some ⟨[], .of settle act state, payload⟩ := by
      simp only [cut?, Call.of, passed]
    rw [cut]
    refine ⟨(List.append_nil _).symm, ?_, ?_⟩
    · exact (congrArg Completed.result performed).trans (result.trans passed)
    · exact (congrArg Completed.state performed).trans (congrArg (·, tally) left)
  | ok answered =>
    have cut : cut? boundary [.called test phase (.of settle act state)] = none := by
      simp only [cut?, Call.of, passed, Option.map_none]
    rw [cut]
    rw [Boundary.eq_ofAttempt_of_pass passed] at passed
    refine ⟨(List.append_nil _).symm, ?_, ?_⟩
    · exact (congrArg Completed.result performed).trans (result.trans passed)
    · exact (congrArg Completed.state performed).trans (congrArg (·, tally) left)

theorem tracks_runHook (test : String) (hooks : Hooks Act) (slot : HookSlot) (state : State) :
    Tracks instrument boundary (runHook boundary (hooks.map instrument.change) slot) state
      (hookLine settle test slot (hooks.get? slot) state)
      ((hook (answer settle) (hooks.get? slot) state).2.map fun cause => ⟨slot.phase, cause⟩)
      (hook (answer settle) (hooks.get? slot) state).1 := by
  unfold runHook
  rw [Hooks.get?_map]
  cases hooks.get? slot with
  | none => exact tracks_pure _ state
  | some act =>
    refine (tracks_perform test slot.phase act state).bind_quiet ?_
    simp only [hook]
    cases (answer settle act state).2 <;> exact tracks_pure _ _

theorem tracks_runAction (test : Test Act) (before : Option Cause) (state : State) :
    Tracks instrument boundary (runAction boundary (test.map instrument.change)
        (before.map fun cause => ⟨.beforeEach, cause⟩)) state (bodyLine settle test before state)
      (body (answer settle) test before state).2 (body (answer settle) test before state).1 := by
  cases before with
  | some cause => exact tracks_pure _ state
  | none =>
    refine (tracks_perform test.name .test test.action state).bind_quiet ?_
    simp only [body]
    cases (answer settle test.action state).2 <;> exact tracks_pure _ _

theorem yields_logOutcome (name : String) (outcome : Outcome) (books : State × Tally) :
    (logOutcome name outcome).Yields books () books := by
  obtain ⟨status, teardown⟩ := outcome
  cases status <;> cases teardown <;> rw [logOutcome]
  case passed.none => exact (yields_pure_iff _ _ _ _).mpr ⟨rfl, rfl⟩
  all_goals exact (yields_log_iff _ _ _ _).mpr rfl

theorem tracks_logOutcome (name : String) (outcome : Outcome) (state : State) :
    Tracks instrument boundary (logOutcome name outcome) state [] () state :=
  tracks_quiet state fun _ tally => ⟨tally, rfl, yields_logOutcome name outcome _⟩

theorem tracks_runTest (hooks : Hooks Act) (test : Test Act) (state : State) :
    Tracks instrument boundary
      (runTest boundary (hooks.map instrument.change) (test.map instrument.change)) state
      (testCalls settle hooks test state) (Course.test (answer settle) hooks test state).2
      (Course.test (answer settle) hooks test state).1 := by
  unfold runTest testCalls
  refine (tracks_runHook test.name hooks .beforeEach state).bind ?_
  refine (tracks_runAction test _ _).bind ?_
  refine (tracks_runHook test.name hooks .afterEach _).bind_quiet ?_
  exact (tracks_logOutcome test.name _ _).bind_quiet (tracks_pure _ _)

/-- The outcome of a test is told when the test is counted and has run. -/
theorem tracks_countedTest (hooks : Hooks Act) (depth : Nat) (test : Test Act) (state : State) :
    Tracks instrument boundary
      (countedTest boundary (hooks.map instrument.change) depth (test.map instrument.change)) state
      (testLine settle hooks depth test state)
      (test.name, (Course.test (answer settle) hooks test state).2)
      (Course.test (answer settle) hooks test state).1 := by
  have counted : Tracks instrument boundary countTest state [] () state :=
    tracks_quiet state fun place tally =>
      ⟨{ tally with total := tally.total + 1 }, rfl, (yields_recount_iff _ () _ _).mpr rfl⟩
  refine counted.bind ((tracks_runTest hooks test state).bind ?_)
  refine tracks_of_yields _ [.testOutcome test.name depth _] fun place tally => ?_
  -- A passed test is counted once more before its outcome is told.
  cases (Course.test (answer settle) hooks test state).2.isPassed with
  | true =>
    refine ⟨_, ?_, ((yields_recount_iff _ () _ _).mpr rfl).bind
      (((yields_announce_iff _ () _ _).mpr rfl).bind ((yields_pure_iff _ _ _ _).mpr ⟨rfl, rfl⟩))⟩
    rfl
  | false =>
    refine ⟨_, ?_,
      ((yields_announce_iff _ () _ _).mpr rfl).bind ((yields_pure_iff _ _ _ _).mpr ⟨rfl, rfl⟩)⟩
    rfl

theorem tracks_runTests (hooks : Hooks Act) (depth : Nat) (list : List (Test Act))
    (state : State) :
    Tracks instrument boundary (runTests boundary (hooks.map instrument.change) depth
        (list.map (Test.map instrument.change))) state (testsLine settle hooks depth list state)
      (tests (answer settle) hooks list state).2 (tests (answer settle) hooks list state).1 := by
  induction list generalizing state with
  | nil => exact tracks_pure [] state
  | cons first rest inductionHypothesis =>
    refine (tracks_countedTest hooks depth first state).bind ?_
    exact (inductionHypothesis _).bind_quiet (tracks_pure _ _)

/-! ### Groups -/

theorem tracks_announceGroup (name : Option String) (tests depth : Nat) (state : State) :
    Tracks instrument boundary (announceGroup name tests depth) state
      ((ReportNode.header name depth).map .told) () state := by
  refine tracks_of_yields state (ReportNode.header name depth) fun place tally => ?_
  cases name with
  | none =>
    exact ⟨tally, (List.append_nil _).symm, (yields_pure_iff _ _ _ _).mpr ⟨rfl, rfl⟩⟩
  | some name =>
    exact ⟨tally.credit [] [.groupStart name depth], rfl,
      ((yields_log_iff _ () _ _).mpr rfl).bind ((yields_announce_iff _ () _ _).mpr rfl)⟩

mutual

/-- The execution of a group goes along its chronicle, and comes to the report of its plain course
if it is not cut off. -/
theorem tracks_executeGroup (depth : Nat) :
    (tree : Group Act) → (state : State) →
      Tracks instrument boundary (executeGroup boundary depth (tree.map instrument.change)) state
        (chronicle settle depth tree state) (group (answer settle) tree state).2
        (group (answer settle) tree state).1
  | ⟨name, list, children, hooks⟩, state => by
    rw [Group.map, executeGroup, chronicle]
    refine Tracks.within ?_ _ depth
    refine (tracks_announceGroup name _ depth state).bind ?_
    refine (tracks_runTests hooks (depth + 1) list state).bind ?_
    exact (tracks_executeGroups (depth + 1) children _).bind_quiet (tracks_pure _ _)

theorem tracks_executeGroups (depth : Nat) :
    (trees : List (Group Act)) → (state : State) →
      Tracks instrument boundary
        (executeGroups boundary depth (Group.mapAll instrument.change trees)) state
        (chronicleAll settle depth trees state) (groups (answer settle) trees state).2
        (groups (answer settle) trees state).1
  | [], state => tracks_pure [] state
  | first :: rest, state => by
    rw [Group.mapAll, executeGroups, chronicleAll]
    refine (tracks_executeGroup depth first state).bind ?_
    exact (tracks_executeGroups depth rest _).bind_quiet (tracks_pure _ _)

end

/-- At a boundary that isolates nothing is cut off, so an execution comes to the report of the plain
course in which a call is what the action comes to. -/
theorem yields_executeGroup (silent : Bool) (depth : Nat) (tree : Group (Action State))
    (state : State) (tally : Tally) :
    ∃ after, (executeGroup (.isolating silent) depth tree).Yields (state, tally)
      (group Action.answer tree state).2 ((group Action.answer tree state).1, after) := by
  have tracks : Tracks (.plain id) (.isolating silent)
      (executeGroup (.isolating silent) depth (tree.map id)) state _ _ _ :=
    tracks_executeGroup depth tree state
  rw [tree.map_id] at tracks
  obtain ⟨books, ran⟩ := tracks [] tally
  rw [cut?_isolating] at ran
  exact ⟨books, ran.2⟩

end Execution

end TestTree
