/-
This file says what a run writes to the log, and within which spans.

Each group of a run has a place: the chain of the spans from the outermost one to its own, and its
depth. While a group is executed, its span is created, its entry is recorded, and then its tests
follow one after another, each with what its calls tell and with a record of its outcome if there
is anything to record. The groups follow in the order of the walk. All of this is written within
exactly the chain of the group, however often the run is suspended and whatever happens in between,
and the end of the run is recorded within the spans around the run.

An action can await other runs. What these tell is told within the chain of the group that the
action stands in, so what an awaited run tells is left open at first, as is what an action does.
-/

import TestTree.Proofs.Future.Telling
import TestTree.Proofs.Run.Call
import TestTree.Proofs.Suite.Mapping
import TestTree.Run.Runner

namespace TestTree

/-! ### Places -/

/-- A group of a tree in its place: the names of the spans from the outermost one down to its own,
its depth, its name, and the names of its own tests. -/
structure Place where
  chain : List String
  depth : Nat
  name : Option String
  tests : List String

mutual

/-- The places of a tree within some spans, each before those below it. -/
def Group.places {Act : Type} (outer : List String) (depth : Nat) : Group Act → List Place
  | ⟨name, tests, children, _⟩ =>
    ⟨outer ++ [name.getD ""], depth, name, tests.map Test.name⟩ ::
      placesAll (outer ++ [name.getD ""]) (depth + 1) children

/-- The places of several trees within the same spans, one tree after another. -/
def Group.placesAll {Act : Type} (outer : List String) (depth : Nat) :
    List (Group Act) → List Place
  | [] => []
  | group :: rest => group.places outer depth ++ placesAll outer depth rest

end

/-! ### Entries -/

/-- The entry of a group is recorded within its chain, with the number of its own tests. A group
without a name is passed over in silence. -/
def Place.header (place : Place) : List TraceEntry :=
  match place.name with
  | none => []
  | some _ => [.record (.groupEntered place.tests.length) place.chain]

/-- What is told of a group before its tests. -/
def Place.opening (place : Place) : List TraceEntry :=
  .span (place.name.getD "") place.depth :: place.header

/-- What is told of the outcome of a test: a failure is recorded, or else a failing teardown. -/
def Outcome.entries (chain : List String) (test : String) : Outcome → List TraceEntry
  | ⟨.passed, none⟩ => []
  | ⟨.passed, some teardown⟩ => [.record (.teardownFailed test teardown) chain]
  | ⟨.failed failure, _⟩ => [.record (.testFailed test failure) chain]

/-- Whether a record is written while a suite is registered. -/
def LogRecord.isRegistration : LogRecord → Bool
  | .describing .. => true
  | .registering _ => true
  | .hookReplaced .. => true
  | _ => false

/-- A run that is awaited inside an action. -/
structure Guest where
  State : Type
  Kept : Type
  Error : Type
  runner : Runner State Kept Error

mutual

/-- What the calls of actions within a chain tell: panics of theirs that are absorbed, what they
register, and what the guests tell that they await, which may be polled in any order. -/
inductive CallsTell (guests : Guest → Prop) : List String → List TraceEntry → Prop where
  | nothing (chain : List String) : CallsTell guests chain []
  | absorbed (chain : List String) : CallsTell guests chain [.record .panicAbsorbed chain]
  | registered (chain : List String) (record : LogRecord)
    (registration : record.isRegistration = true) : CallsTell guests chain [.record record chain]
  | awaited {guest : Guest} (member : guests guest) {chain : List String}
    {stage : Option (Except Payload (Report guest.Error))} {entries : List TraceEntry}
    (tells : RunTells guests chain guest.runner stage entries) : CallsTell guests chain entries
  | mingled {chain : List String} {first second told : List TraceEntry}
    (one : CallsTell guests chain first) (two : CallsTell guests chain second)
    (interleaved : Interleaved first second told) : CallsTell guests chain told

/-- What the tests of a group tell, given by their names: all of them, or those up to a moment in
which the calls of one of them are not over. -/
inductive TestsTell (guests : Guest → Prop) :
    List String → List String → Bool → List TraceEntry → Prop where
  | done (chain : List String) : TestsTell guests chain [] true []
  | calling {chain : List String} (tests : List String) {calls : List TraceEntry}
    (tells : CallsTell guests chain calls) : TestsTell guests chain tests false calls
  | test {chain : List String} (test : String) {rest : List String} {whole : Bool}
    {calls later : List TraceEntry} (tells : CallsTell guests chain calls) (outcome : Outcome)
    (further : TestsTell guests chain rest whole later) :
    TestsTell guests chain (test :: rest) whole (calls ++ outcome.entries chain test ++ later)

/-- What the groups in some places tell: all of them, or those up to a moment in which the tests of
one of them are not over. -/
inductive PlacesTell (guests : Guest → Prop) : List Place → Bool → List TraceEntry → Prop where
  | done : PlacesTell guests [] true []
  | waiting (places : List Place) : PlacesTell guests places false []
  | testing {place : Place} (later : List Place) {own : List TraceEntry}
    (tells : TestsTell guests place.chain place.tests false own) :
    PlacesTell guests (place :: later) false (place.opening ++ own)
  | place {place : Place} {later : List Place} {whole : Bool} {own entries : List TraceEntry}
    (tells : TestsTell guests place.chain place.tests true own)
    (further : PlacesTell guests later whole entries) :
    PlacesTell guests (place :: later) whole (place.opening ++ (own ++ entries))

/-- What a run within some spans tells, as long as it has not ended, when it has returned its
report, and when it has panicked. Its end is recorded within the outer spans, and if a panic of its
own thread is absorbed while it ends, this is as well. -/
inductive RunTells (guests : Guest → Prop) : {State Kept Error : Type} → List String →
    Runner State Kept Error → Option (Except Payload (Report Error)) → List TraceEntry → Prop where
  | running {State Kept Error : Type} {outer : List String} {runner : Runner State Kept Error}
    {entries : List TraceEntry}
    (tells : PlacesTell guests (runner.suite.root.places outer 0) false entries) :
    RunTells guests outer runner none entries
  | reported {State Kept Error : Type} {outer : List String} {runner : Runner State Kept Error}
    {entries : List TraceEntry} (report : Report Error)
    (tells : PlacesTell guests (runner.suite.root.places outer 0) true entries) :
    RunTells guests outer runner (some (.ok report)) (entries ++
      [.record (.runFinished report.total report.passed report.failed) outer])
  | panicked {State Kept Error : Type} {outer : List String} {runner : Runner State Kept Error}
    {whole : Bool} {entries closing : List TraceEntry} (payload : Payload)
    (tells : PlacesTell guests (runner.suite.root.places outer 0) whole entries)
    (ending : ∀ entry ∈ closing, entry = .record .panicAbsorbed outer ∨
      ∃ total passed failed, entry = .record (.runFinished total passed failed) outer) :
    RunTells guests outer runner (some (.error payload)) (entries ++ closing)

end

variable {guests : Guest → Prop}

/-! ### Calls -/

theorem CallsTell.append {chain : List String} {first second : List TraceEntry}
    (one : CallsTell guests chain first) (two : CallsTell guests chain second) :
    CallsTell guests chain (first ++ second) :=
  .mingled one two ((Interleaved.refl_left first).append_right second)

/-- The promise of a future that is part of a call. -/
def Telling.calls {Value : Type} (guests : Guest → Prop) (chain : List String) : Telling Value :=
  .always (CallsTell guests chain)

namespace Future

variable {State Value Other : Type} {chain : List String}

/-- A part of a call can come after another one. -/
theorem Tells.following_calls {future : Future State Value} {earlier : List TraceEntry}
    (tells : future.Tells chain (.calls guests chain)) (early : CallsTell guests chain earlier) :
    future.Tells chain (Telling.following (.calls guests chain) earlier) :=
  tells.weaken (fun _ => early.append) fun _ _ => early.append

theorem Tells.bind_calls {future : Future State Value} {next : Value → Future State Other}
    (tells : future.Tells chain (.calls guests chain))
    (further : ∀ value, (next value).Tells chain (.calls guests chain)) :
    (future.bind next).Tells chain (.calls guests chain) :=
  tells.bind (fun _ => id) (fun _ _ => id) fun value _ => (further value).following_calls

theorem tells_ready_calls (value : Value) :
    (Future.ready value : Future State Value).Tells chain (.calls guests chain) :=
  tells_ready (.nothing chain)

/-- A boundary tells nothing of its own. -/
theorem Tells.around {future : Future State Verdict}
    (tells : future.Tells chain (.calls guests chain)) (boundary : Boundary) :
    (boundary.around future).Tells chain (.calls guests chain) := by
  cases boundary with
  | isolating silent =>
    have caught : future.attempt.Tells chain (.calls guests chain) := Upholds.attempt tells
    exact caught.bind_calls fun _ => tells_ready_calls _
  | transparent => exact tells.bind_calls fun _ => tells_ready_calls _

end Future

/-! ### Tests -/

namespace Execution

open Future

variable {State : Type} {boundary : Boundary} {chain : List String}

theorem tells_perform {action : Action State}
    (tells : action.call.follow.Tells chain (.calls guests chain)) :
    (perform boundary action).Tells chain (.calls guests chain) := by
  unfold perform await
  rw [Boundary.follow_enclose]
  exact (tells.around boundary).onFirst

theorem tells_runHook {hooks : Hooks (Action State)}
    (tells : ∀ action ∈ hooks.actions, action.call.follow.Tells chain (.calls guests chain))
    (slot : HookSlot) : (runHook boundary hooks slot).Tells chain (.calls guests chain) := by
  unfold runHook
  cases found : hooks.get? slot with
  | none => exact tells_ready_calls none
  | some hook =>
    refine (tells_perform (tells hook (Hooks.mem_actions found))).bind_calls fun result => ?_
    cases result <;> exact tells_ready_calls _

theorem tells_runAction {test : Test (Action State)}
    (tells : test.action.call.follow.Tells chain (.calls guests chain))
    (before : Option Failure) :
    (runAction boundary test before).Tells chain (.calls guests chain) := by
  cases before with
  | some failure => exact tells_ready_calls _
  | none =>
    refine (tells_perform tells).bind_calls fun result => ?_
    cases result <;> exact tells_ready_calls _

theorem tells_logOutcome (test : String) (outcome : Outcome) :
    (logOutcome test outcome : Execution State Unit).Tells chain
      (.exactly (outcome.entries chain test)) := by
  obtain ⟨status, teardown⟩ := outcome
  cases status <;> cases teardown <;> rw [logOutcome]
  case passed.none => exact tells_ready ⟨rfl, rfl⟩
  all_goals exact tells_logged (tells_ready ⟨rfl, rfl⟩)

/-- The promise of a test: what its calls tell, and then what is told of its outcome. -/
def testing {Value : Type} (guests : Guest → Prop) (chain : List String) (test : String)
    (outcome : Value → Outcome) : Telling Value where
  midway := CallsTell guests chain
  atEnd result told := match result with
    | .ok value => ∃ calls, CallsTell guests chain calls ∧
      told = calls ++ (outcome value).entries chain test
    | .error _ => CallsTell guests chain told

theorem tells_runTest {hooks : Hooks (Action State)} {test : Test (Action State)}
    (hooksTell : ∀ action ∈ hooks.actions, action.call.follow.Tells chain (.calls guests chain))
    (tells : test.action.call.follow.Tells chain (.calls guests chain)) :
    (runTest boundary hooks test).Tells chain (testing guests chain test.name id) := by
  unfold runTest
  refine (tells_runHook hooksTell .beforeEach).bind (fun _ => id) (fun _ _ => id) ?_
  intro before one oneTells
  refine (tells_runAction tells before).bind (fun _ => oneTells.append)
    (fun _ _ => oneTells.append) ?_
  intro status two twoTells
  refine (tells_runHook hooksTell .afterEach).bind
    (fun _ more => oneTells.append (twoTells.append more))
    (fun _ _ more => oneTells.append (twoTells.append more)) ?_
  intro teardown three threeTells
  refine (tells_logOutcome test.name ⟨status, teardown⟩).bind_exactly (tells_ready ?_)
  refine ⟨one ++ (two ++ three), oneTells.append (twoTells.append threeTells), ?_⟩
  simp only [List.append_assoc, List.append_nil, id]

theorem tells_recount (change : Tally → Tally) :
    (recount change : Execution State Unit).Tells chain (.exactly []) :=
  tells_modify _ ⟨rfl, rfl⟩

theorem tells_countedTest {hooks : Hooks (Action State)} {depth : Nat} {test : Test (Action State)}
    (hooksTell : ∀ action ∈ hooks.actions, action.call.follow.Tells chain (.calls guests chain))
    (tells : test.action.call.follow.Tells chain (.calls guests chain)) :
    (countedTest boundary hooks depth test).Tells chain
      (testing guests chain test.name Prod.snd) := by
  have counted : (countTest : Execution State Unit).Tells chain (.exactly []) := tells_recount _
  refine counted.bind_silent ?_
  refine (tells_runTest hooksTell tells).bind (fun _ => id) (fun _ _ => id) ?_
  rintro outcome _ ⟨calls, callsTell, rfl⟩
  have announced : (Future.bind (fun _ => .ready (test.name, outcome))
      (announce (.testOutcome test.name depth outcome) : Execution State Unit)).Tells chain
        ((testing guests chain test.name Prod.snd).following
          (calls ++ outcome.entries chain test.name)) :=
    (tells_recount _).bind_silent (tells_ready_following ⟨calls, callsTell, rfl⟩)
  by_cases passed : outcome.isPassed = true
  · rw [if_pos passed]
    exact (tells_recount _).bind_silent announced
  · rw [if_neg passed]
    exact announced

theorem tells_runTests {hooks : Hooks (Action State)} {depth : Nat}
    {tests : List (Test (Action State))}
    (hooksTell : ∀ action ∈ hooks.actions, action.call.follow.Tells chain (.calls guests chain))
    (tells : ∀ action ∈ tests.map Test.action,
      action.call.follow.Tells chain (.calls guests chain)) :
    (runTests boundary hooks depth tests).Tells chain
      (.gradually (TestsTell guests chain (tests.map Test.name))) := by
  induction tests with
  | nil => exact tells_ready (.done chain)
  | cons test rest inductionHypothesis =>
    rw [List.map_cons, List.forall_mem_cons] at tells
    rw [runTests, List.map_cons]
    refine (tells_countedTest hooksTell tells.1).bind (fun _ => .calling _)
      (fun _ _ => .calling _) ?_
    rintro outcome _ ⟨calls, callsTell, rfl⟩
    exact (inductionHypothesis tells.2).bind (fun _ => .test test.name callsTell outcome.2)
      (fun _ _ => .test test.name callsTell outcome.2) fun outcomes later laterTells =>
        tells_ready_following (.test test.name callsTell outcome.2 laterTells)

/-! ### Groups -/

end Execution

namespace PlacesTell

variable {first second : List Place} {entries more : List TraceEntry}

/-- What is told before the end of some places is told before the end of more places. -/
theorem waiting_append (tells : PlacesTell guests first false entries) (second : List Place) :
    PlacesTell guests (first ++ second) false entries := by
  induction first generalizing entries with
  | nil =>
    cases tells
    exact .waiting second
  | cons place rest inductionHypothesis =>
    cases tells with
    | waiting => exact .waiting _
    | testing _ tells => exact .testing _ tells
    | place tells further => exact .place tells (inductionHypothesis further)

theorem append {whole : Bool} (one : PlacesTell guests first true entries)
    (two : PlacesTell guests second whole more) :
    PlacesTell guests (first ++ second) whole (entries ++ more) := by
  induction first generalizing entries with
  | nil =>
    cases one
    exact two
  | cons place rest inductionHypothesis =>
    cases one with
    | place tells further =>
      rw [List.append_assoc, List.append_assoc]
      exact .place tells (inductionHypothesis further)

end PlacesTell

namespace Execution

open Future

variable {State : Type} {boundary : Boundary} {outer : List String}

theorem tells_announceGroup (place : Place) :
    (announceGroup place.name place.tests.length place.depth : Execution State Unit).Tells
      place.chain (.exactly place.header) := by
  obtain ⟨chain, depth, name, tests⟩ := place
  cases name with
  | none => exact tells_ready ⟨rfl, rfl⟩
  | some name =>
    have logged : (log (.groupEntered tests.length) : Execution State Unit).Tells chain
        (.exactly [.record (.groupEntered tests.length) chain]) :=
      tells_logged (tells_ready ⟨rfl, rfl⟩)
    refine logged.bind_exactly ?_
    exact tells_modify _ ⟨rfl, rfl⟩

mutual

/-- The execution of a group tells what the places of the group tell. -/
theorem tells_executeGroup {outer : List String} (depth : Nat) :
    (group : Group (Action State)) →
      (∀ action ∈ group.actions, ∀ chain,
        action.call.follow.Tells chain (.calls guests chain)) →
      (executeGroup boundary depth group).Tells outer
        (.gradually (PlacesTell guests (group.places outer depth)))
  | ⟨name, tests, children, hooks⟩, tells => by
    simp only [Group.actions, List.forall_mem_append] at tells
    obtain ⟨⟨hooksTell, testsTell⟩, childrenTell⟩ := tells
    rw [executeGroup, Group.places]
    refine tells_spanCreated (Tells.instrument _ ?_)
    have announced : (announceGroup name (tests.map Test.name).length depth :
        Execution State Unit).Tells _ _ :=
      tells_announceGroup ⟨outer ++ [name.getD ""], depth, name, tests.map Test.name⟩
    rw [List.length_map] at announced
    refine announced.bind_exactly ?_
    refine (tells_runTests (fun action member => hooksTell action member _)
      fun action member => testsTell action member _).bind (fun _ => .testing _)
      (fun _ _ => .testing _) fun outcomes own ownTells => ?_
    exact (tells_executeGroups (depth + 1) children childrenTell).bind
      (fun _ => .place ownTells) (fun _ _ => .place ownTells)
      fun reports entries further => tells_ready_following (.place ownTells further)

theorem tells_executeGroups {outer : List String} (depth : Nat) :
    (groups : List (Group (Action State))) →
      (∀ action ∈ Group.actionsBelow groups, ∀ chain,
        action.call.follow.Tells chain (.calls guests chain)) →
      (executeGroups boundary depth groups).Tells outer
        (.gradually (PlacesTell guests (Group.placesAll outer depth groups)))
  | [], _ => tells_ready .done
  | group :: rest, tells => by
    simp only [Group.actionsBelow, List.forall_mem_append] at tells
    rw [executeGroups, Group.placesAll]
    refine (tells_executeGroup depth group tells.1).bind (fun _ one => one.waiting_append _)
      (fun _ _ one => one.waiting_append _) fun report entries one => ?_
    exact (tells_executeGroups depth rest tells.2).bind (fun _ => one.append)
      (fun _ _ => one.append) fun reports more two => tells_ready_following (one.append two)

end

end Execution

/-! ### Runs -/

namespace Runner

open Future

variable {State Kept Error : Type} {outer : List String}

/-- The promise of a run, which never unwinds. -/
def telling (guests : Guest → Prop) (outer : List String) (runner : Runner State Kept Error) :
    Telling (Conclusion Kept Error) where
  midway := RunTells guests outer runner none
  atEnd result told := match result with
    | .ok conclusion => RunTells guests outer runner (some conclusion.result) told
    | .error _ => False

theorem tells_guardUp {Value : Type} {telling : Telling Value} {rest : Future State Value}
    (tells : rest.Tells outer telling) (boundary : Boundary) :
    (sendAll (guardUp boundary) rest).Tells outer telling := by
  unfold guardUp
  split
  · exact tells_guardInstalled tells
  · exact tells

theorem tells_guardDown {Value : Type} {telling : Telling Value} {rest : Future State Value}
    (tells : rest.Tells outer telling) (boundary : Boundary) (unwinding : Bool) :
    (sendAll (guardDown boundary unwinding) rest).Tells outer telling := by
  unfold guardDown
  split
  · exact tells_guardReleased tells
  · exact tells

/-- A run that ends by a panic announces some panics, each of which may be absorbed. -/
theorem tells_abort {telling : Telling (Conclusion Kept Error)} (boundary : Boundary) (kept : Kept)
    (panics : List (Thread × Payload)) (payload : Payload)
    (atEnd : ∀ closing, (∀ entry ∈ closing, entry = .record .panicAbsorbed outer) →
      telling.atEnd (.ok ⟨kept, .error payload⟩) closing) :
    (abort boundary kept (panics.map fun panic => .panicked panic.1 panic.2) payload :
      Future State (Conclusion Kept Error)).Tells outer telling := by
  induction panics generalizing telling with
  | nil =>
    exact tells_guardDown (tells_ready (atEnd [] fun _ member => absurd member List.not_mem_nil))
      boundary true
  | cons panic rest inductionHypothesis =>
    refine tells_panicked (inductionHypothesis atEnd) ?_
    refine inductionHypothesis fun closing absorbed => ?_
    exact atEnd _ (List.forall_mem_cons.mpr ⟨rfl, absorbed⟩)

/-- Once the groups have told what they tell, the run tells of its end within the outer spans. -/
theorem tells_conclude (runner : Runner State Kept Error) (delivery : Formatter.Delivery Kept Error)
    (result : Except Payload ReportNode) (tally : Tally) {entries : List TraceEntry}
    (tells : PlacesTell guests (runner.suite.root.places outer 0) result.isOk entries) :
    (runner.conclude delivery result tally).Tells outer
      ((runner.telling guests outer).following entries) := by
  have aborted {closing : List TraceEntry} (payload : Payload)
      (absorbed : ∀ entry ∈ closing, entry = .record .panicAbsorbed outer) :
      RunTells guests outer runner (some (.error payload)) (entries ++ closing) :=
    .panicked payload tells fun entry member => .inl (absorbed entry member)
  unfold conclude
  cases result with
  | error payload =>
    cases delivery.panic with
    | none => exact tells_abort _ _ [] payload fun _ => aborted payload
    | some formatting =>
      exact tells_abort _ _ [(.formatter, formatting)] payload fun _ => aborted payload
  | ok root =>
    cases delivery.panic with
    | some formatting =>
      exact tells_abort _ _ [(.formatter, formatting), (.main, joinFailure)] joinFailure fun _ =>
        aborted joinFailure
    | none =>
      refine tells_logged ?_
      cases (runner.formatter.deliver delivery (.runOutcomes (summary tally))).panic with
      | some payload =>
        refine tells_abort _ _ [(.main, payload)] payload fun closing absorbed => ?_
        refine .panicked payload tells (List.forall_mem_cons.mpr ⟨.inr ⟨_, _, _, rfl⟩, ?_⟩)
        exact fun entry member => .inl (absorbed entry member)
      | none =>
        refine tells_guardDown (tells_ready_following ?_) runner.boundary false
        exact .reported (report root tally _) tells

/-- A run tells of its groups and of its end, wherever it is polled. -/
theorem tells_conduct (runner : Runner State Kept Error)
    (tells : ∀ action ∈ runner.suite.root.actions, ∀ chain,
      action.call.follow.Tells chain (.calls guests chain)) :
    runner.conduct.Tells outer (runner.telling guests outer) := by
  unfold conduct
  refine tells_guardUp ?_ runner.boundary
  dsimp only
  cases (runner.formatter.deliver ⟨runner.initial, [], none⟩
      (.runStart runner.suite.testCount)).panic with
  | some payload =>
    refine tells_abort _ _ [(.main, payload)] payload fun closing absorbed => ?_
    exact .panicked payload (.waiting _) fun entry member => .inl (absorbed entry member)
  | none =>
    have started : (Execution.executeGroup runner.boundary 0 runner.suite.root).start.Tells outer
        ⟨PlacesTell guests (runner.suite.root.places outer 0) false, fun result told =>
          ∃ ended, result = .ok ended ∧
            PlacesTell guests (runner.suite.root.places outer 0) ended.1.isOk told⟩ := by
      refine Upholds.collect Tally.zero ?_
      refine (Execution.tells_executeGroup 0 runner.suite.root tells).weaken (fun _ => id) ?_
      exact fun _ _ tells own => ⟨_, rfl, tells⟩
    refine started.bind (fun _ => .running) ?_ ?_
    · rintro payload told ⟨ended, unwound, _⟩
      cases unwound
    · rintro ended entries ⟨_, returned, tells⟩
      obtain rfl := Except.ok.inj returned
      exact runner.tells_conclude _ _ _ tells

theorem tells_run (runner : Runner State Kept Error)
    (tells : ∀ action ∈ runner.suite.root.actions, ∀ chain,
      action.call.follow.Tells chain (.calls guests chain)) :
    runner.run.Tells outer ⟨RunTells guests outer runner none,
      fun result => RunTells guests outer runner (some result)⟩ := by
  refine (runner.tells_conduct tells).bind (fun _ => id) (fun _ _ => False.elim) ?_
  exact fun conclusion told tells => tells_ofExcept_following tells

end Runner

end TestTree
