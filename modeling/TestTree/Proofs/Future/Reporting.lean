/-
This file drives futures by hand that report on the calls in them.

A call can be watched: beside what it does, it notes when it begins and when it has ended, and
whenever it suspends or goes on, in which state it does so. Whoever drives a future that has watched
calls in it makes a note as well, for each time that the future returns without an end and others
have their turn. What is noted in this way tells which calls suspended the future, if the notes are
those of stints: calls one after another, each of which has the pauses of the driver between its
beginning and its end, and where each pause lies between a suspension of this call and the moment in
which the same call goes on with what the others left.

A future reports on the calls of another one if it is the same future, except for the notes, and its
notes are those of stints with as many pauses as the future has. Every way to build futures keeps
this, so a whole run reports on its calls.
-/

import TestTree.Proofs.Future.Interference

namespace TestTree

/-! ### Notes -/

/-- What is noted while a future is driven by hand. -/
inductive Glimpse (Label State : Type) where
  /-- A call begins. -/
  | begun (label : Label)
  /-- A call suspends in a state. -/
  | suspended (label : Label) (state : State)
  /-- A call that suspended goes on in a state. -/
  | resumed (label : Label) (state : State)
  /-- A call has ended, whether it returned or panicked. -/
  | ended (label : Label)
  /-- The future that is driven returned without an end, and others have their turn. -/
  | paused
deriving DecidableEq

/-- A call that was made: its label, and the states in which it suspended. -/
structure Stint (Label State : Type) where
  label : Label
  pauses : List State

variable {Label State Value Other : Type}

namespace Stint

/-- The notes of a call from the moment it begins or goes on: each time it suspends, the future that
is driven returns at once, the others have their turn, and the call goes on in the state that they
left. -/
def rest (others : Nat → State → State) (label : Label) : List State → List (Glimpse Label State)
  | [] => [.ended label]
  | state :: later => .suspended label state :: .paused :: .resumed label (others 0 state) ::
      rest (fun turn => others (turn + 1)) label later

/-- The notes of calls one after another. -/
def story (others : Nat → State → State) : List (Stint Label State) → List (Glimpse Label State)
  | [] => []
  | ⟨label, pauses⟩ :: later => .begun label :: rest others label pauses ++
      story (fun turn => others (turn + pauses.length)) later

/-- How often several calls suspended. -/
def suspensions : List (Stint Label State) → Nat
  | [] => 0
  | stint :: later => stint.pauses.length + suspensions later

theorem suspensions_append (earlier later : List (Stint Label State)) :
    suspensions (earlier ++ later) = suspensions earlier + suspensions later := by
  induction earlier with
  | nil => exact (Nat.zero_add _).symm
  | cons first earlier inductionHypothesis =>
    rw [List.cons_append, suspensions, suspensions, inductionHypothesis, Nat.add_assoc]

/-- Later calls are told with the turns that the others have after the earlier ones. -/
theorem story_append (others : Nat → State → State) (earlier later : List (Stint Label State)) :
    story others (earlier ++ later) =
      story others earlier ++ story (fun turn => others (turn + suspensions earlier)) later := by
  induction earlier generalizing others with
  | nil => rfl
  | cons first earlier inductionHypothesis =>
    obtain ⟨label, pauses⟩ := first
    rw [List.cons_append, story, story, inductionHypothesis, List.append_assoc]
    simp only [suspensions, Nat.add_comm, Nat.add_left_comm]

end Stint

/-- A turn of the others, of which the driver makes a note. -/
def Glimpse.between (others : Nat → State → State) (turn : Nat)
    (both : State × List (Glimpse Label State)) : State × List (Glimpse Label State) :=
  (others turn both.1, both.2 ++ [.paused])

namespace Future

/-! ### Watched calls -/

/-- Make a note of the state and go on. -/
def note (glimpse : State → Glimpse Label State)
    (rest : Future (State × List (Glimpse Label State)) Value) :
    Future (State × List (Glimpse Label State)) Value :=
  .read fun both => .write (both.1, both.2 ++ [glimpse both.1]) rest

/-- Note the suspensions and the end of a future. -/
def watched (label : Label) :
    Future State Value → Future (State × List (Glimpse Label State)) Value
  | .ready value => note (fun _ => .ended label) (.ready value)
  | .unwind payload => note (fun _ => .ended label) (.unwind payload)
  | .pending rest =>
    note (.suspended label) (.pending (note (.resumed label) (rest.watched label)))
  | .send signal rest => .send signal (rest.watched label)
  | .read step => .read fun both => (step both.1).watched label
  | .write state rest => .read fun both => .write (state, both.2) (rest.watched label)

/-- A watched future is driven as the future is, and notes its pauses and its end. -/
theorem completeAmid_watched (label : Label) (future : Future State Value)
    (others : Nat → State → State) (state : State) (notes : List (Glimpse Label State)) :
    let driven := future.completeAmid others state
    ∃ pauses, pauses.length = driven.suspensions ∧
      (future.watched label).completeAmid (Glimpse.between others) (state, notes) =
        ⟨driven.signals, (driven.state, notes ++ Stint.rest others label pauses), driven.result,
          driven.suspensions⟩ := by
  induction future generalizing others state notes with
  | ready value => exact ⟨[], rfl, rfl⟩
  | unwind payload => exact ⟨[], rfl, rfl⟩
  | pending rest inductionHypothesis =>
    -- The notes of the suspension, of the driver, and of the call that goes on.
    obtain ⟨pauses, length, told⟩ := inductionHypothesis (fun turn => others (turn + 1))
      (others 0 state) (((notes ++ [.suspended label state]) ++ [.paused]) ++
        [.resumed label (others 0 state)])
    refine ⟨state :: pauses, congrArg Nat.succ length, ?_⟩
    have whole : ((Future.pending rest).watched label).completeAmid (Glimpse.between others)
          (state, notes) =
        let again := (rest.watched label).completeAmid
          (Glimpse.between fun turn => others (turn + 1)) (others 0 state,
            notes ++ [.suspended label state] ++ [.paused] ++ [.resumed label (others 0 state)])
        ⟨again.signals, again.state, again.result, again.suspensions + 1⟩ := rfl
    rw [whole, told]
    simp only [List.append_assoc, List.singleton_append]
    rfl
  | send signal rest inductionHypothesis =>
    obtain ⟨pauses, length, told⟩ := inductionHypothesis others state notes
    refine ⟨pauses, length, ?_⟩
    rw [watched, completeAmid, told]
    rfl
  | read step inductionHypothesis => exact inductionHypothesis state others state notes
  | write next rest inductionHypothesis => exact inductionHypothesis others next notes

/-! ### Reports -/

/-- The second completion is the first one with the notes of some calls, and these calls suspended
as often as the first one did. -/
structure Completed.Reported (others : Nat → State → State) (notes : List (Glimpse Label State))
    (stints : List (Stint Label State)) (driven : Completed State Value)
    (reported : Completed (State × List (Glimpse Label State)) Value) : Prop where
  state : reported.state = (driven.state, notes ++ Stint.story others stints)
  result : reported.result = driven.result
  suspensions : reported.suspensions = driven.suspensions
  accounted : driven.suspensions = Stint.suspensions stints

/-- Driven by hand beside others, the second future reports on the calls in the first one. -/
def Reports (plain : Future State Value)
    (reporting : Future (State × List (Glimpse Label State)) Value) : Prop :=
  ∀ others state notes, ∃ stints,
    Completed.Reported others notes stints (plain.completeAmid others state)
      (reporting.completeAmid (Glimpse.between others) (state, notes))

theorem reports_ofExcept (result : Except Payload Value) :
    (ofExcept result : Future State Value).Reports
      (ofExcept result : Future (State × List (Glimpse Label State)) Value) := by
  intro others state notes
  refine ⟨[], ?_⟩
  cases result <;> exact ⟨congrArg (Prod.mk _) (List.append_nil _).symm, rfl, rfl, rfl⟩

theorem reports_ready (value : Value) :
    (.ready value : Future State Value).Reports
      (.ready value : Future (State × List (Glimpse Label State)) Value) :=
  reports_ofExcept (.ok value)

/-- A future that is watched from its beginning reports on itself. -/
theorem reports_watched (label : Label) (future : Future State Value) :
    future.Reports (note (fun _ => .begun label) (future.watched label)) := by
  intro others state notes
  obtain ⟨pauses, length, told⟩ := completeAmid_watched label future others state
    (notes ++ [.begun label])
  refine ⟨[⟨label, pauses⟩], ?_⟩
  have whole : (note (fun _ => .begun label) (future.watched label)).completeAmid
      (Glimpse.between others) (state, notes) = _ := told
  rw [whole]
  refine ⟨?_, rfl, rfl, length.symm⟩
  rw [List.append_assoc]
  exact congrArg _ (congrArg _ (List.append_nil _).symm)

theorem Reports.send {plain : Future State Value}
    {reporting : Future (State × List (Glimpse Label State)) Value} (signal : Signal)
    (reports : plain.Reports reporting) :
    (Future.send signal plain).Reports (Future.send signal reporting) := by
  intro others state notes
  obtain ⟨stints, reported⟩ := reports others state notes
  exact ⟨stints, reported.state, reported.result, reported.suspensions, reported.accounted⟩

theorem Reports.sendAll {plain : Future State Value}
    {reporting : Future (State × List (Glimpse Label State)) Value} (signals : List Signal)
    (reports : plain.Reports reporting) :
    (Future.sendAll signals plain).Reports (Future.sendAll signals reporting) := by
  induction signals with
  | nil => exact reports
  | cons signal signals inductionHypothesis => exact inductionHypothesis.send signal

theorem Reports.bind {plain : Future State Value}
    {reporting : Future (State × List (Glimpse Label State)) Value}
    {next : Value → Future State Other}
    {further : Value → Future (State × List (Glimpse Label State)) Other}
    (first : plain.Reports reporting) (second : ∀ value, (next value).Reports (further value)) :
    (plain.bind next).Reports (reporting.bind further) := by
  intro others state notes
  obtain ⟨stints, reported⟩ := first others state notes
  simp only [completeAmid_bind, Completed.andThen, reported.result, reported.state,
    reported.suspensions]
  cases (plain.completeAmid others state).result with
  | error payload => exact ⟨stints, rfl, rfl, rfl, reported.accounted⟩
  | ok value =>
    obtain ⟨later, more⟩ := second value
      (fun turn => others (turn + (plain.completeAmid others state).suspensions))
      (plain.completeAmid others state).state (notes ++ Stint.story others stints)
    refine ⟨stints ++ later, ?_, more.result, ?_, ?_⟩
    · rw [Stint.story_append, ← reported.accounted, ← List.append_assoc]
      exact more.state
    · exact congrArg _ more.suspensions
    · rw [Stint.suspensions_append, ← reported.accounted, ← more.accounted]

theorem Reports.attempt {plain : Future State Value}
    {reporting : Future (State × List (Glimpse Label State)) Value}
    (reports : plain.Reports reporting) : plain.attempt.Reports reporting.attempt := by
  intro others state notes
  obtain ⟨stints, reported⟩ := reports others state notes
  rw [completeAmid_attempt, completeAmid_attempt]
  exact ⟨stints, reported.state, congrArg Except.ok reported.result, reported.suspensions,
    reported.accounted⟩

theorem Reports.instrument {plain : Future State Value}
    {reporting : Future (State × List (Glimpse Label State)) Value} (name : String)
    (reports : plain.Reports reporting) :
    (plain.instrument name).Reports (reporting.instrument name) := by
  refine Reports.send _ ?_
  intro others state notes
  obtain ⟨stints, reported⟩ := reports others state notes
  obtain ⟨_, plainly⟩ := completeAmid_withinSpan name others plain state
  obtain ⟨_, noted⟩ :=
    completeAmid_withinSpan name (Glimpse.between others) reporting (state, notes)
  rw [plainly, noted]
  exact ⟨stints, reported.state, reported.result, reported.suspensions, reported.accounted⟩

end Future

end TestTree
