/-
This file compares the runs of one suite at the two kinds of boundaries.

Both go along the same chronicle. The run that isolates goes all the way, the one that lets panics
through ends with the first call that panics. Up to that call they cannot be told apart, and a run
in which nothing panics cannot be told apart at all. What is compared is how a run ends, the state
that it leaves, the events that its formatter is told of, and the notes that its actions take on
themselves: each notes when it begins, and when it has ended, in which state and how.
-/

import TestTree.Proofs.Run.Counts
import TestTree.Proofs.Run.Tracking

namespace TestTree

open Occurrence

variable {Act State Larger Label Kept Error : Type}
  {settle : Act → State → State × Except Payload Verdict}

/-! ### Runs along a chronicle -/

/-- What happens when a suite is run from a state and nothing cuts it off. -/
def Suite.chronicle (settle : Act → State → State × Except Payload Verdict) (suite : Suite Act)
    (state : State) : List (Occurrence Act State) :=
  Course.chronicle settle 0 suite.root state

/-- The state that the course of a suite leaves, and the report of its root. -/
def Suite.course (settle : Act → State → State × Except Payload Verdict) (suite : Suite Act)
    (state : State) : State × ReportNode :=
  Course.group (Course.answer settle) suite.root state

/-- Who gets through more events got through the first of them. -/
theorem Formatter.Endures.first {formatter : Formatter Kept Error} {initial : Kept}
    {first second : List Event} (endures : formatter.Endures initial (first ++ second)) :
    formatter.Endures initial first := by
  unfold Endures at endures
  rw [deliverAll_append] at endures
  exact panic_eq_none_of_deliverAll endures

namespace Instrument

open Execution Formatter

variable (instrument : Instrument settle Larger) (suite : Suite Act) (boundary : Boundary)
  (formatter : Formatter Kept Error) (initial : Kept) (state : State)

/-- The runner of a suite whose actions are changed. -/
def runner : Runner Larger Kept Error :=
  ⟨suite.map instrument.change, boundary, formatter, initial⟩

theorem testCount_runner :
    (instrument.runner suite boundary formatter initial).suite.testCount = suite.testCount :=
  Group.testCount_map instrument.change suite.root

theorem tracks_root : Tracks instrument boundary
    (executeGroup boundary 0 (instrument.runner suite boundary formatter initial).suite.root) state
    (suite.chronicle settle state) (suite.course settle state).2 (suite.course settle state).1 :=
  tracks_executeGroup 0 suite.root state

include instrument in
/-- The story of the course has the events of the chronicle between its first and its last one. -/
theorem story_course : (suite.course settle state).2.story =
    .runStart suite.testCount :: events (suite.chronicle settle state) ++
      [.runOutcomes (suite.course settle state).2.summary] := by
  let runner := instrument.runner suite (.isolating false) (.silent : Formatter Unit Empty) ()
  obtain ⟨books, ran⟩ := instrument.tracks_root suite (.isolating false)
    (.silent : Formatter Unit Empty) () state [] .zero
  -- An isolating boundary cuts nothing off, so its execution queues the whole chronicle.
  rw [cut?_isolating] at ran
  obtain ⟨queued, yields⟩ := ran
  have executed : (executeGroup runner.boundary 0 runner.suite.root).Yields
      (instrument.embed state [], .zero) _ (_, books) := yields
  have told := (Runner.told_eq_story executed).1
  have counted := instrument.testCount_runner suite (.isolating false)
    (.silent : Formatter Unit Empty) ()
  simp only [Runner.told, ReportNode.story, List.cons_append, List.cons.injEq] at told ⊢
  obtain ⟨start, inner⟩ := told
  refine ⟨start.symm.trans (congrArg Event.runStart counted), ?_⟩
  obtain ⟨walk, _⟩ := List.append_inj' inner rfl
  rw [← walk, queued]
  rfl

variable {suite boundary formatter initial state}

/-- A run that is not cut off returns the report of the course. -/
theorem yields_run (whole : cut? boundary (suite.chronicle settle state) = none)
    (endures : formatter.Endures initial (suite.course settle state).2.story) :
    (instrument.runner suite boundary formatter initial).run.Yields (instrument.embed state [])
      ((instrument.runner suite boundary formatter initial).reportOf
        (suite.course settle state).2)
      (instrument.embed (suite.course settle state).1
        (calls (suite.chronicle settle state))) := by
  obtain ⟨books, ran⟩ := instrument.tracks_root suite boundary formatter initial state [] .zero
  rw [whole] at ran
  exact (Runner.yields_run_root_iff _ _ _ _).mpr ⟨_, books, ran.2, endures, rfl⟩

/-- A run that is cut off unwinds with the payload of its last call, and its formatter was told of
what happened before that call. -/
theorem unwinds_run {cut : Cut Act State}
    (early : cut? boundary (suite.chronicle settle state) = some cut)
    (endures : formatter.Endures initial (.runStart suite.testCount :: events cut.earlier)) :
    (instrument.runner suite boundary formatter initial).run.Unwinds (instrument.embed state [])
        cut.payload (instrument.embed cut.call.left (calls cut.earlier ++ [cut.call])) ∧
      (instrument.runner suite boundary formatter initial).delivered (instrument.embed state []) =
        .runStart suite.testCount :: events cut.earlier := by
  obtain ⟨books, ran⟩ := instrument.tracks_root suite boundary formatter initial state [] .zero
  rw [early] at ran
  obtain ⟨queued, unwinds⟩ := ran
  have told : books.queue = events cut.earlier := queued
  rw [← instrument.testCount_runner suite boundary formatter initial, ← told] at endures ⊢
  exact ⟨Runner.unwinds_run unwinds endures, Runner.delivered_of_unwinds unwinds endures⟩

end Instrument

/-! ### Actions that note what they come to -/

/-- What an action notes about itself under its label. -/
inductive Note (Label State : Type) where
  | begun (label : Label)
  | ended (label : Label) (left : State) (result : Except Payload Verdict)

/-- The notes of calls of which none begins before the one before it has ended. -/
def Note.inTurn (calls : List (Call (Label × Action State) State)) : List (Note Label State) :=
  calls.flatMap fun call => [.begun call.act.1, .ended call.act.1 call.left call.ended]

theorem Note.inTurn_append (first second : List (Call (Label × Action State) State)) :
    inTurn (first ++ second) = inTurn first ++ inTurn second := List.flatMap_append

/-- The same action, which notes under its label when it begins, and when it has ended, in which
state and how. -/
def Action.witnessed (label : Label) (action : Action State) :
    Action (State × List (Note Label State)) :=
  action.noting (.begun label) (.ended label)

/-- Labelled actions that note what they come to. -/
def Instrument.witnessing : Instrument (fun entry : Label × Action State => entry.2.settle)
    (State × List (Note Label State)) where
  change entry := entry.2.witnessed entry.1
  embed state log := (state, Note.inTurn log)
  settle_change := by
    intro entry state log
    rw [Action.witnessed, Action.settle_noting, Note.inTurn_append]
    rfl

/-! ### What is seen of a run -/

/-- What is seen of a run: how it ended, the state that it left, the notes of its actions, and the
events that its formatter was told of. -/
structure Observation (Label State Error : Type) where
  result : Except Payload (Report Error)
  left : State
  notes : List (Note Label State)
  events : List Event

/-- Run a suite from a state. The notes are those of a run from the same state in which the actions
take notes. -/
def Suite.observe (suite : Suite (Label × Action State)) (boundary : Boundary)
    (formatter : Formatter Kept Error) (initial : Kept) (state : State) :
    Observation Label State Error :=
  let plain : Runner State Kept Error := ⟨suite.map Prod.snd, boundary, formatter, initial⟩
  let witnessed : Runner (State × List (Note Label State)) Kept Error :=
    ⟨suite.map fun entry => entry.2.witnessed entry.1, boundary, formatter, initial⟩
  ⟨(plain.run.complete state).result, (plain.run.complete state).state,
    (witnessed.run.complete (state, [])).state.2, plain.delivered state⟩

namespace Suite

variable {suite : Suite (Label × Action State)} {boundary : Boundary}
  {formatter : Formatter Kept Error} {initial : Kept} {state : State}

/-- How the actions of a labelled suite settle. -/
abbrev settling (entry : Label × Action State) : State → State × Except Payload Verdict :=
  entry.2.settle

/-- The report of the course of a suite whose formatter starts in the given state. -/
def reportOf (suite : Suite (Label × Action State)) (formatter : Formatter Kept Error)
    (initial : Kept) (state : State) : Report Error :=
  (Runner.mk (suite.map Prod.snd) .transparent formatter initial).reportOf
    (suite.course settling state).2

/-- A run that is not cut off is seen to take the whole course. -/
theorem observe_of_whole (whole : cut? boundary (suite.chronicle settling state) = none)
    (endures : formatter.Endures initial (suite.course settling state).2.story) :
    suite.observe boundary formatter initial state =
      ⟨.ok (suite.reportOf formatter initial state), (suite.course settling state).1,
        Note.inTurn (calls (suite.chronicle settling state)),
        (suite.course settling state).2.story⟩ := by
  have plain := (Instrument.plain (Prod.snd : Label × Action State → _)).yields_run whole endures
  have witnessed := Instrument.witnessing.yields_run whole endures
  show Observation.mk _ _ _ _ = _
  rw [Observation.mk.injEq]
  exact ⟨plain.1, plain.2, congrArg Prod.snd witnessed.2, Runner.delivered_eq_story plain⟩

/-- A run that is cut off is seen to end with its last call. -/
theorem observe_of_cut {cut : Cut (Label × Action State) State}
    (early : cut? boundary (suite.chronicle settling state) = some cut)
    (endures : formatter.Endures initial (.runStart suite.testCount :: events cut.earlier)) :
    suite.observe boundary formatter initial state =
      ⟨.error cut.payload, cut.call.left, Note.inTurn (calls cut.earlier ++ [cut.call]),
        .runStart suite.testCount :: events cut.earlier⟩ := by
  obtain ⟨plain, delivered⟩ :=
    (Instrument.plain (Prod.snd : Label × Action State → _)).unwinds_run early endures
  obtain ⟨witnessed, _⟩ := Instrument.witnessing.unwinds_run early endures
  show Observation.mk _ _ _ _ = _
  rw [Observation.mk.injEq]
  exact ⟨plain.1, plain.2, congrArg Prod.snd witnessed.2, delivered⟩

theorem story_course (suite : Suite (Label × Action State)) (state : State) :
    (suite.course settling state).2.story =
      .runStart suite.testCount :: events (suite.chronicle settling state) ++
        [.runOutcomes (suite.course settling state).2.summary] :=
  (Instrument.plain Prod.snd).story_course suite state

/-- The events of a chronicle are about groups and tests, so none of them is the last of a run. -/
theorem kind_ne_of_mem_chronicle (suite : Suite (Label × Action State)) (state : State)
    {event : Event} (member : event ∈ events (suite.chronicle settling state)) :
    event.kind ≠ .runOutcomes := by
  have story := story_course suite state
  rw [ReportNode.story, List.cons_append, List.cons_append, List.cons.injEq] at story
  obtain ⟨walk, _⟩ := List.append_inj' story.2 rfl
  rw [← walk] at member
  rcases (Runner.countP_events _ 0).1 event member with kind | kind <;> rw [kind] <;> decide

section

variable {earlier later : List (Occurrence (Label × Action State) State)} {test : String}
  {phase : Phase} {call : Call (Label × Action State) State} {payload : Payload}

/-- A formatter that gets through the whole story gets through what is told before a call. -/
theorem endures_earlier
    (split : suite.chronicle settling state = earlier ++ .called test phase call :: later)
    (endures : formatter.Endures initial (suite.course settling state).2.story) :
    formatter.Endures initial (.runStart suite.testCount :: events earlier) := by
  rw [story_course, split, events_split, List.cons_append, List.append_assoc,
    ← List.cons_append] at endures
  exact endures.first

/-- At a boundary that lets panics through, a run ends with the first call that panics. -/
theorem observe_of_panic
    (split : suite.chronicle settling state = earlier ++ .called test phase call :: later)
    (calm : ∀ call ∈ calls earlier, call.panic? = none) (panicked : call.panic? = some payload)
    (endures : formatter.Endures initial (suite.course settling state).2.story) :
    suite.observe .transparent formatter initial state =
      ⟨.error payload, call.left, Note.inTurn (calls earlier ++ [call]),
        .runStart suite.testCount :: events earlier⟩ := by
  have early : cut? .transparent (suite.chronicle settling state) =
      some ⟨earlier, call, payload⟩ := by
    rw [split]
    exact cut?_eq_some calm panicked
  exact observe_of_cut early (endures_earlier split endures)

/-- What is told after a call that panics begins with the outcome that records the panic. -/
theorem recorded_of_panic
    (split : suite.chronicle settling state = earlier ++ .called test phase call :: later)
    (panicked : call.panic? = some payload) :
    ∃ depth outcome further, events later = .testOutcome test depth outcome :: further ∧
      ⟨phase, .panicked payload.message⟩ ∈ outcome.failures := by
  have accounted : Accounted (earlier ++ .called test phase call :: later) :=
    split ▸ Course.accounted_chronicle settling 0 suite.root state
  obtain ⟨⟨depth, outcome, further, next, recorded⟩, _⟩ := accounted_later accounted
  exact ⟨depth, outcome, further, next, recorded payload panicked⟩

end

/-- A run that isolates calls and tells what the chronicle says and returns a report. A run that
lets panics through is the same if no call of the first one panics. Otherwise it ends with the
first call that panics: it unwinds with the payload of that call, whose message is the one that the
first run records, in the state that the call left, having made the calls up to this one. Its
formatter was told of what the other one was told of before the outcome of the test of that call,
and never of the end. -/
theorem observe_transparent (suite : Suite (Label × Action State)) (silent : Bool)
    (formatter : Formatter Kept Error) (initial : Kept) (state : State)
    (endures : formatter.Endures initial (suite.course settling state).2.story) :
    let chronicle := suite.chronicle settling state
    let isolated := suite.observe (.isolating silent) formatter initial state
    let exposed := suite.observe .transparent formatter initial state
    (∃ report : Report Error, isolated.result = .ok report ∧
      isolated.notes = Note.inTurn (calls chronicle) ∧ isolated.events = report.root.story ∧
      isolated.events = .runStart suite.testCount :: events chronicle ++
        [.runOutcomes report.root.summary]) ∧
    ((∀ call ∈ calls chronicle, call.panic? = none) → exposed = isolated) ∧
    ∀ earlier test phase call later payload,
      chronicle = earlier ++ .called test phase call :: later →
      (∀ call ∈ calls earlier, call.panic? = none) → call.panic? = some payload →
        exposed = ⟨.error payload, call.left, Note.inTurn (calls earlier ++ [call]),
          .runStart suite.testCount :: events earlier⟩ ∧
        isolated.notes = exposed.notes ++ Note.inTurn (calls later) ∧
        (∀ event ∈ exposed.events, event.kind ≠ .runOutcomes) ∧
        ∃ depth outcome further,
          isolated.events = exposed.events ++ .testOutcome test depth outcome :: further ∧
          ⟨phase, .panicked payload.message⟩ ∈ outcome.failures := by
  intro chronicle isolated exposed
  have story := story_course suite state
  have whole : isolated = _ := observe_of_whole (cut?_isolating silent chronicle) endures
  refine ⟨⟨_, congrArg Observation.result whole, congrArg Observation.notes whole,
    congrArg Observation.events whole, (congrArg Observation.events whole).trans story⟩, ?_, ?_⟩
  · intro calm
    exact (observe_of_whole (cut?_eq_none calm) endures).trans whole.symm
  · intro earlier test phase call later payload split calm panicked
    have parted : exposed = _ := observe_of_panic split calm panicked endures
    obtain ⟨depth, outcome, further, next, recorded⟩ := recorded_of_panic split panicked
    have told : events chronicle = events earlier ++ events later := by rw [split, events_split]
    have made : calls chronicle = calls earlier ++ [call] ++ calls later := by
      rw [split, calls_split]
    refine ⟨parted, ?_, ?_, depth, outcome,
      further ++ [.runOutcomes (suite.course settling state).2.summary], ?_, recorded⟩
    · rw [parted, whole]
      exact (congrArg Note.inTurn made).trans (Note.inTurn_append _ _)
    · intro event member
      rw [parted] at member
      rcases List.mem_cons.mp member with rfl | inner
      · exact EventKind.noConfusion
      · exact kind_ne_of_mem_chronicle suite state (told ▸ List.mem_append_left _ inner)
    · rw [parted, whole]
      refine story.trans ?_
      show _ :: events chronicle ++ _ = _
      rw [told, next]
      simp only [List.cons_append, List.append_assoc]

/-- An action that suspends, leaves a trace on the state, and panics. -/
def stumbling : Action Nat :=
  .asynchronous (pure (.pending (.read fun count => .write (count + 10) (.unwind (.text "gone")))))

/-- A suite in which the first test returns an error, the second one panics between the hooks of
its group, and a third one would follow. -/
def parting : Suite (String × Action Nat) :=
  ⟨⟨none, [⟨"early", ("early", .blocking (pure (.error "no")))⟩],
    [⟨some "inner", [⟨"late", ("late", stumbling)⟩,
        ⟨"never", ("never", .blocking (pure .success))⟩], [],
      ⟨some ("before", .blocking fun count => ⟨[], count + 1, .ok .success⟩),
        some ("after", .blocking fun count => ⟨[], count + 100, .ok .success⟩)⟩⟩],
    .empty⟩⟩

/-- A formatter that rejects the start of each group. -/
def picky : Formatter Unit String :=
  ⟨fun kept event => (kept, if event.kind = .groupStart then .rejected "no groups" else .accepted)⟩

/-- The run that isolates goes on behind the panic and runs both hooks twice. The other one ends
with the panic, before the hook behind it and before anything is told of the second test. -/
theorem observe_transparent_parting :
    picky.Endures () (parting.course settling 0).2.story ∧
      (parting.observe .standard picky () 0).left = 212 ∧
      parting.observe .transparent picky () 0 =
        ⟨.error (.text "gone"), 11,
          [.begun "early", .ended "early" 0 (.ok (.error "no")),
            .begun "before", .ended "before" 1 (.ok .success),
            .begun "late", .ended "late" 11 (.error (.text "gone"))],
          [.runStart 3, .testOutcome "early" 1 ⟨.failed ⟨.test, .error "no"⟩, none⟩,
            .groupStart "inner" 1]⟩ ∧
      ∃ depth outcome further,
        (parting.observe .standard picky () 0).events =
          (parting.observe .transparent picky () 0).events ++
            .testOutcome "late" depth outcome :: further ∧
        ⟨.test, .panicked "gone"⟩ ∈ outcome.failures := by
  have calm : ∀ call ∈ calls ((parting.chronicle settling 0).take 4), call.panic? = none :=
    List.forall_mem_cons.mpr ⟨rfl, List.forall_mem_cons.mpr ⟨rfl, List.forall_mem_nil _⟩⟩
  obtain ⟨exposed, _, _, recorded⟩ := (observe_transparent parting true picky () 0 rfl).2.2
    ((parting.chronicle settling 0).take 4) "late" .test (.of settling ("late", stumbling) 1)
    ((parting.chronicle settling 0).drop 5) (.text "gone") rfl calm rfl
  exact ⟨rfl, rfl, exposed, recorded⟩

end Suite

end TestTree
