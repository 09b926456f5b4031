/-
This file proves that a run is not disturbed by the formatter that it is told to.

The tree is executed in the same way whoever listens, so the calls of a run, the state that they
leave, its outcomes and its counts are those of its execution. A formatter that rejects events is
told of the later ones all the same, and the errors of a report are its rejections in order. A
formatter that panics is told of nothing more, and it takes the report away from the run, but it
stops a test only if it panics before the first one.
-/

import TestTree.Proofs.Run.Channel
import TestTree.Proofs.Run.Parting

namespace TestTree

open Occurrence

variable {State Label Kept Error OtherKept OtherError : Type}

/-! ### Formatters that never panic -/

namespace Formatter

/-- The formatter accepts or rejects every event, whatever it was told before. -/
def Calm (formatter : Formatter Kept Error) : Prop :=
  ∀ kept event payload, (formatter.react kept event).2 ≠ .panicked payload

/-- The errors with which a formatter rejects some of several events, each with the kind of the
event that it rejects. -/
def rejections (formatter : Formatter Kept Error) : Kept → List Event → List (EventKind × Error)
  | _, [] => []
  | kept, event :: rest =>
    let (after, reaction) := formatter.react kept event
    match reaction with
    | .rejected error => (event.kind, error) :: formatter.rejections after rest
    | _ => formatter.rejections after rest

variable {formatter : Formatter Kept Error}

/-- A formatter that never panics gets through all events, and what it has collected are its
rejections. -/
theorem Calm.deliverAll (calm : formatter.Calm) (kept : Kept) (earlier : List (EventKind × Error))
    (events : List Event) :
    (formatter.deliverAll ⟨kept, earlier, none⟩ events).panic = none ∧
      (formatter.deliverAll ⟨kept, earlier, none⟩ events).errors =
        earlier ++ formatter.rejections kept events := by
  induction events generalizing kept earlier with
  | nil => exact ⟨rfl, (List.append_nil earlier).symm⟩
  | cons event rest inductionHypothesis =>
    show (formatter.deliverAll (formatter.deliver ⟨kept, earlier, none⟩ event) rest).panic = none ∧
      (formatter.deliverAll (formatter.deliver ⟨kept, earlier, none⟩ event) rest).errors = _
    cases reacted : (formatter.react kept event).2 with
    | accepted =>
      simp only [deliver, rejections, reacted]
      exact inductionHypothesis _ earlier
    | rejected error =>
      simp only [deliver, rejections, reacted]
      obtain ⟨through, collected⟩ := inductionHypothesis (formatter.react kept event).1
        (earlier ++ [(event.kind, error)])
      exact ⟨through, collected.trans (List.append_assoc _ _ _)⟩
    | panicked payload => exact absurd reacted (calm kept event payload)

theorem Calm.endures (calm : formatter.Calm) (initial : Kept) (events : List Event) :
    formatter.Endures initial events :=
  (calm.deliverAll initial [] events).1

/-- The formatter lets a run of so many tests begin. -/
def Opens (formatter : Formatter Kept Error) (initial : Kept) (tests : Nat) : Prop :=
  ∀ payload, (formatter.react initial (.runStart tests)).2 ≠ .panicked payload

theorem opens_of_endures {initial : Kept} {tests : Nat} {events : List Event}
    (endures : formatter.Endures initial (.runStart tests :: events)) :
    formatter.Opens initial tests := by
  intro payload panicked
  have calm : (formatter.deliver (fresh initial) (.runStart tests)).panic = none :=
    panic_eq_none_of_deliverAll endures
  simp only [deliver, fresh, panicked] at calm
  cases calm

/-! ### Formatters that panic -/

/-- The first of these events at which the formatter panics is the one of this number. -/
def PanicsAt (formatter : Formatter Kept Error) (initial : Kept) (events : List Event)
    (number : Nat) (payload : Payload) : Prop :=
  formatter.Endures initial (events.take number) ∧
    ∃ event, events[number]? = some event ∧
      (formatter.react (formatter.deliverAll (fresh initial) (events.take number)).state event).2 =
        .panicked payload

namespace PanicsAt

variable {initial : Kept} {events : List Event} {number : Nat} {payload : Payload}

theorem number_lt (panics : formatter.PanicsAt initial events number payload) :
    number < events.length := by
  obtain ⟨_, event, found, _⟩ := panics
  exact (List.getElem?_eq_some_iff.mp found).1

/-- After the event at which it panics, nothing comes to the formatter. -/
theorem deliverAll (panics : formatter.PanicsAt initial events number payload) {count : Nat}
    (later : number < count) :
    (formatter.deliverAll (fresh initial) (events.take count)).panic = some payload ∧
      formatter.deliverAll (fresh initial) (events.take count) =
        formatter.deliverAll (fresh initial) (events.take (number + 1)) := by
  obtain ⟨endures, event, found, panicked⟩ := panics
  have first : (formatter.deliverAll (fresh initial) (events.take (number + 1))).panic =
      some payload := by
    rw [List.take_add_one, found, Option.toList_some, deliverAll_append]
    show (formatter.deliver _ event).panic = some payload
    unfold deliver
    rw [show (formatter.deliverAll (fresh initial) (events.take number)).panic = none from endures]
    simp only
    rw [panicked]
  have split : events.take count =
      events.take (number + 1) ++ (events.drop (number + 1)).take (count - (number + 1)) := by
    rw [← List.take_add, Nat.add_sub_cancel' later]
  have same : formatter.deliverAll (fresh initial) (events.take count) =
      formatter.deliverAll (fresh initial) (events.take (number + 1)) := by
    rw [split, deliverAll_append]
    exact deliverAll_of_panic formatter _ payload first _
  exact ⟨same ▸ first, same⟩

/-- Behind a recorder the formatter panics at the same event, which is the last one recorded. -/
theorem recording (panics : formatter.PanicsAt initial events number payload) :
    formatter.recording.PanicsAt (initial, []) events number payload ∧
      (formatter.recording.deliverAll (fresh (initial, [])) events).state.2 =
        events.take (number + 1) := by
  obtain ⟨endures, event, found, panicked⟩ := panics
  have kept := deliverAll_recording formatter (fresh initial) [] (events.take number) endures
  have alike : formatter.recording.PanicsAt (initial, []) events number payload := by
    refine ⟨congrArg Delivery.panic kept, event, found, ?_⟩
    rw [show formatter.recording.deliverAll (fresh (initial, [])) (events.take number) = _ from kept]
    exact panicked
  refine ⟨alike, ?_⟩
  have last := (alike.deliverAll alike.number_lt).2
  rw [List.take_length] at last
  rw [last, List.take_add_one, found, Option.toList_some, deliverAll_append]
  show (formatter.recording.deliver _ event).state.2 = _
  rw [show formatter.recording.deliverAll (fresh (initial, [])) (events.take number) = _ from kept,
    ← show (formatter.deliverAll (fresh initial) (events.take number)).panic = none from endures,
    deliver_recording formatter _ _ event endures]
  rfl

end PanicsAt

/-- A formatter gets through the first events, or there is an event at which it panics first. -/
theorem endures_take_or_panicsAt (formatter : Formatter Kept Error) (initial : Kept)
    (events : List Event) (count : Nat) : formatter.Endures initial (events.take count) ∨
      ∃ number payload, formatter.PanicsAt initial events number payload := by
  induction count with
  | zero => exact .inl rfl
  | succ count inductionHypothesis =>
    rcases inductionHypothesis with endures | panics
    · cases found : events[count]? with
      | none =>
        rw [List.take_add_one, found, Option.toList_none, List.append_nil]
        exact .inl endures
      | some event =>
        rw [List.take_add_one, found, Option.toList_some]
        have calm : (formatter.deliverAll (fresh initial) (events.take count)).panic = none := endures
        have next : formatter.deliverAll (fresh initial) (events.take count ++ [event]) =
            formatter.deliver (formatter.deliverAll (fresh initial) (events.take count)) event :=
          deliverAll_append _ _ _ _
        unfold Endures
        rw [next, deliver, calm]
        cases reacted : (formatter.react
            (formatter.deliverAll (fresh initial) (events.take count)).state event).2 with
        | accepted => exact .inl (by simp only [reacted])
        | rejected error => exact .inl (by simp only [reacted])
        | panicked payload => exact .inr ⟨count, payload, endures, event, found, reacted⟩
    · exact .inr panics

end Formatter

/-! ### How a run with a formatter that panics ends -/

namespace Runner

open Future Formatter

variable {runner : Runner State Kept Error} {state after : State} {root : ReportNode}
  {tally : Tally} {payload : Payload}

/-- A formatter that panics at the first event ends the run before anything is executed. -/
theorem yields_conduct_of_opening
    (panicked : (runner.formatter.deliver (fresh runner.initial)
      (.runStart runner.suite.testCount)).panic = some payload) :
    runner.conduct.Yields state
      ⟨(runner.formatter.deliver (fresh runner.initial) (.runStart runner.suite.testCount)).state,
        .error payload⟩ state := by
  unfold fresh at panicked
  unfold conduct
  rw [yields_sendAll_iff]
  simp only [panicked]
  exact yields_abort _ _ _ payload state

/-- A run that gets to its tree ends as it concludes when the formatter has worked through the
queue. -/
theorem yields_conduct_of_conclude {conclusion : Conclusion Kept Error}
    (calm : (runner.formatter.deliver (fresh runner.initial)
      (.runStart runner.suite.testCount)).panic = none)
    (executed : (Execution.executeGroup runner.boundary 0 runner.suite.root).Yields (state, .zero)
      root (after, tally))
    (concluded : (runner.conclude (runner.formatter.deliverAll (fresh runner.initial)
      (.runStart runner.suite.testCount :: tally.queue)) (.ok root) tally).Yields after conclusion
        after) :
    runner.conduct.Yields state conclusion after := by
  unfold fresh at calm
  unfold conduct
  rw [yields_sendAll_iff]
  simp only [calm]
  exact ((yields_start_iff _ root tally state after).mpr executed).bind concluded

/-- A formatter that panicked on its thread takes the report away when the thread is waited for. -/
theorem yields_conclude_of_stopped {delivery : Delivery Kept Error}
    (stopped : delivery.panic = some payload) :
    (runner.conclude delivery (.ok root) tally).Yields state ⟨delivery.state, .error joinFailure⟩
      state := by
  simp only [conclude, stopped]
  exact yields_abort _ _ _ joinFailure state

/-- A formatter that panics at the last event takes the report away by its own panic. -/
theorem yields_conclude_of_last {delivery : Delivery Kept Error}
    (through : delivery.panic = none)
    (panicked : (runner.formatter.deliver delivery (.runOutcomes (summary tally))).panic =
      some payload) :
    (runner.conclude delivery (.ok root) tally).Yields state
      ⟨(runner.formatter.deliver delivery (.runOutcomes (summary tally))).state, .error payload⟩
      state := by
  simp only [conclude, through, yields_send_iff, panicked]
  exact yields_abort _ _ _ payload state

/-- A formatter that panics later leaves the execution alone. On its own thread its panic shows when
the run waits for the thread, and at the last event it is the panic of the run. -/
theorem yields_conduct_of_panicsAt {number : Nat}
    (executed : (Execution.executeGroup runner.boundary 0 runner.suite.root).Yields (state, .zero)
      root (after, tally))
    (panics : runner.formatter.PanicsAt runner.initial root.story number payload) :
    runner.conduct.Yields state
      ⟨(runner.formatter.deliverAll (fresh runner.initial) root.story).state,
        .error (if 0 < number ∧ number + 1 < root.story.length then joinFailure else payload)⟩
      (if number = 0 then state else after) := by
  have whole : root.story = (.runStart runner.suite.testCount :: tally.queue) ++
      [.runOutcomes (summary tally)] := (told_eq_story executed).1.symm
  have lengthStory : root.story.length = tally.queue.length + 2 := by
    rw [whole, List.length_append, List.length_cons, List.length_singleton]
  have queued : root.story.take (tally.queue.length + 1) =
      .runStart runner.suite.testCount :: tally.queue :=
    whole ▸ List.take_left' List.length_cons
  obtain ⟨panicked, last⟩ := panics.deliverAll panics.number_lt
  rw [List.take_length] at panicked last
  cases number with
  | zero =>
    have first : root.story.take 1 = [.runStart runner.suite.testCount] := by rw [whole]; rfl
    rw [last, first] at panicked
    rw [if_neg (by omega), if_pos rfl, last, first]
    exact yields_conduct_of_opening panicked
  | succ number =>
    have calm : (runner.formatter.deliver (fresh runner.initial)
        (.runStart runner.suite.testCount)).panic = none := by
      have endures := panics.1
      rw [whole] at endures
      exact panic_eq_none_of_deliverAll endures
    rw [if_neg (Nat.succ_ne_zero number)]
    refine yields_conduct_of_conclude calm executed ?_
    by_cases early : number + 2 < root.story.length
    · -- It panics at an event of the queue and is told of nothing that is queued behind it.
      have within : number + 1 < tally.queue.length + 1 := by omega
      obtain ⟨stopped, same⟩ := panics.deliverAll within
      rw [queued] at stopped same
      rw [if_pos ⟨Nat.succ_pos number, early⟩, last, ← same]
      exact yields_conclude_of_stopped stopped
    · -- It panics at the last event, which the thread has left to the run.
      have final : number + 1 = tally.queue.length + 1 := by
        have bound : number + 1 < root.story.length := panics.number_lt
        omega
      have through : runner.formatter.Endures runner.initial
          (.runStart runner.suite.testCount :: tally.queue) := by
        rw [← queued, ← final]
        exact panics.1
      rw [if_neg (fun both => early both.2), whole, deliverAll_append]
      rw [whole, deliverAll_append] at panicked
      exact yields_conclude_of_last through panicked

end Runner

/-! ### What is sent to a formatter -/

namespace Suite

variable {Act : Type} {settle : Act → State → State × Except Payload Verdict}

/-- The events of a run in the order in which they happen: its start, what its course tells, and
its end. If the boundary cuts the course off, what it told until then is the last of them. -/
def agenda (settle : Act → State → State × Except Payload Verdict) (suite : Suite Act)
    (boundary : Boundary) (state : State) : List Event :=
  .runStart suite.testCount ::
    match cut? boundary (suite.chronicle settle state) with
    | some cut => events cut.earlier
    | none => events (suite.chronicle settle state) ++
        [.runOutcomes (suite.course settle state).2.summary]

/-- What is sent in a run that is not cut off is the story of its course. -/
theorem agenda_of_whole {suite : Suite (Label × Action State)} {boundary : Boundary} {state : State}
    (whole : cut? boundary (suite.chronicle settling state) = none) :
    suite.agenda settling boundary state = (suite.course settling state).2.story := by
  rw [agenda, whole, story_course, List.cons_append]

theorem agenda_of_cut {suite : Suite Act} {boundary : Boundary} {state : State}
    {cut : Cut Act State} (early : cut? boundary (suite.chronicle settle state) = some cut) :
    suite.agenda settle boundary state = .runStart suite.testCount :: events cut.earlier := by
  rw [agenda, early]

end Suite

/-! ### What is seen of a run with a thread beside it -/

/-- The events that the formatter of a run is told of on its thread. -/
def Runner.deliveredBeside (runner : Runner State Kept Error) (pace : Pace) (state : State) :
    List Event :=
  match ((runner.recorded.conductBeside pace).complete state).result with
  | .ok conclusion => conclusion.formatter.2
  | .error _ => []

theorem Runner.deliveredBeside_eq (runner : Runner State Kept Error) (pace : Pace)
    (state : State) : runner.deliveredBeside pace state = runner.delivered state := by
  have same := complete_conductBeside runner.recorded pace state
  unfold deliveredBeside
  exact same ▸ rfl

namespace Suite

/-- Run a suite from a state, with the thread of its formatter at work beside it. -/
def observeBeside (suite : Suite (Label × Action State)) (pace : Pace) (boundary : Boundary)
    (formatter : Formatter Kept Error) (initial : Kept) (state : State) :
    Observation Label State Error :=
  let plain : Runner State Kept Error := ⟨suite.map Prod.snd, boundary, formatter, initial⟩
  let witnessed : Runner (State × List (Note Label State)) Kept Error :=
    ⟨suite.map fun entry => entry.2.witnessed entry.1, boundary, formatter, initial⟩
  ⟨((plain.runBeside pace).complete state).result, ((plain.runBeside pace).complete state).state,
    ((witnessed.runBeside pace).complete (state, [])).state.2, plain.deliveredBeside pace state⟩

/-- At whichever pace the thread works, nothing of it is seen. -/
theorem observeBeside_eq (suite : Suite (Label × Action State)) (pace : Pace) (boundary : Boundary)
    (formatter : Formatter Kept Error) (initial : Kept) (state : State) :
    suite.observeBeside pace boundary formatter initial state =
      suite.observe boundary formatter initial state := by
  unfold observeBeside observe
  simp only [Runner.complete_runBeside, Runner.deliveredBeside_eq]

/-! ### Runs that are told to formatters that never panic -/

variable {suite : Suite (Label × Action State)} {boundary : Boundary}
  {formatter : Formatter Kept Error} {initial : Kept} {state : State}

/-- What is seen of a run whose formatter never panics and rejects events with these errors. -/
def expected (suite : Suite (Label × Action State)) (boundary : Boundary) (state : State)
    (errors : List (EventKind × Error)) : Observation Label State Error :=
  match cut? boundary (suite.chronicle settling state) with
  | some cut =>
    ⟨.error cut.payload, cut.call.left, Note.inTurn (calls cut.earlier ++ [cut.call]),
      suite.agenda settling boundary state⟩
  | none =>
    let (left, root) := suite.course settling state
    ⟨.ok ⟨root, root.outcomesBelow.length, root.passedCount, errors⟩, left,
      Note.inTurn (calls (suite.chronicle settling state)), suite.agenda settling boundary state⟩

/-- A formatter that never panics leaves nothing in a run but its rejections. -/
theorem observe_of_calm (calm : formatter.Calm) :
    suite.observe boundary formatter initial state =
      suite.expected boundary state
        (formatter.rejections initial (suite.agenda settling boundary state)) := by
  unfold expected
  cases ending : cut? boundary (suite.chronicle settling state) with
  | some cut =>
    simp only [agenda_of_cut ending]
    exact observe_of_cut ending (calm.endures initial _)
  | none =>
    simp only [agenda_of_whole ending]
    rw [observe_of_whole ending (calm.endures initial _), reportOf, Runner.reportOf]
    simp only [Formatter.fresh]
    rw [(calm.deliverAll initial [] _).2, List.nil_append]

/-- Two formatters that never panic, each on a thread with a pace of its own, are told the same
events, and the runs differ in nothing but the errors of their reports, which are the rejections of
the formatter in the order of the events. -/
theorem observeBeside_calm (suite : Suite (Label × Action State)) (boundary : Boundary)
    (state : State) (first : Formatter Kept Error) (firstInitial : Kept) (firstPace : Pace)
    (firstCalm : first.Calm) (second : Formatter OtherKept OtherError) (secondInitial : OtherKept)
    (secondPace : Pace) (secondCalm : second.Calm) :
    let agenda := suite.agenda settling boundary state
    let one := suite.observeBeside firstPace boundary first firstInitial state
    let other := suite.observeBeside secondPace boundary second secondInitial state
    one.notes = other.notes ∧ one.left = other.left ∧
      (one.result.map fun report => (report.root, report.total, report.passed)) =
        (other.result.map fun report => (report.root, report.total, report.passed)) ∧
      one.events = agenda ∧ other.events = agenda ∧
      (∀ report, one.result = .ok report → agenda = report.root.story ∧
        report.formatErrors = first.rejections firstInitial agenda) ∧
      ∀ report, other.result = .ok report → agenda = report.root.story ∧
        report.formatErrors = second.rejections secondInitial agenda := by
  intro agenda one other
  have seen : one = _ := (suite.observeBeside_eq firstPace _ _ _ _).trans
    (observe_of_calm firstCalm)
  have seenToo : other = _ := (suite.observeBeside_eq secondPace _ _ _ _).trans
    (observe_of_calm secondCalm)
  rw [seen, seenToo]
  unfold expected
  cases ending : cut? boundary (suite.chronicle settling state) with
  | some cut => exact ⟨rfl, rfl, rfl, rfl, rfl, nofun, nofun⟩
  | none =>
    have story : agenda = _ := agenda_of_whole ending
    refine ⟨rfl, rfl, rfl, rfl, rfl, ?_, ?_⟩
    · rintro report ⟨⟩
      exact ⟨story, rfl⟩
    · rintro report ⟨⟩
      exact ⟨story, rfl⟩

/-- A formatter that counts what it is told and rejects every second event with its number. -/
def fussy : Formatter Nat Nat :=
  ⟨fun count _ => (count + 1, if count % 2 = 0 then .rejected count else .accepted)⟩

theorem picky_calm : picky.Calm := by
  intro kept event payload reacted
  cases event <;> cases reacted

theorem observeBeside_calm_parting :
    picky.Calm ∧ fussy.Calm ∧
      let one := parting.observeBeside id .standard picky () 0
      let other := parting.observeBeside (fun _ => 0) .standard fussy 0 0
      one.notes = other.notes ∧ one.events = other.events ∧
      (∃ report, one.result = .ok report ∧ report.formatErrors = [(.groupStart, "no groups")]) ∧
      ∃ report, other.result = .ok report ∧
        report.formatErrors = [(.runStart, 0), (.groupStart, 2), (.testOutcome, 4)] := by
  have fussyCalm : fussy.Calm := by
    intro count event payload reacted
    change (if count % 2 = 0 then Reaction.rejected count else .accepted) = _ at reacted
    split at reacted <;> cases reacted
  obtain ⟨notes, _, _, told, toldToo, errors, errorsToo⟩ :=
    observeBeside_calm parting .standard 0 picky () id picky_calm fussy 0 (fun _ => 0) fussyCalm
  have seen := parting.observeBeside_eq id .standard picky () 0
  have seenToo := parting.observeBeside_eq (fun _ => 0) .standard fussy 0 0
  refine ⟨picky_calm, fussyCalm, notes, told.trans toldToo.symm,
    ⟨_, congrArg Observation.result seen, ?_⟩, _, congrArg Observation.result seenToo, ?_⟩
  · exact (errors _ (congrArg Observation.result seen)).2
  · exact (errorsToo _ (congrArg Observation.result seenToo)).2

end Suite

/-! ### Runs that are told to formatters that panic -/

namespace Instrument

open Future Formatter

variable {Act Larger : Type} {settle : Act → State → State × Except Payload Verdict}
  (instrument : Instrument settle Larger) {suite : Suite Act} {boundary : Boundary}
  {formatter : Formatter Kept Error} {initial : Kept} {state : State} {number : Nat}
  {payload : Payload}

theorem yields_conduct_of_panicsAt (whole : cut? boundary (suite.chronicle settle state) = none)
    (panics : formatter.PanicsAt initial (suite.course settle state).2.story number payload) :
    let story := (suite.course settle state).2.story
    (instrument.runner suite boundary formatter initial).conduct.Yields (instrument.embed state [])
      ⟨(formatter.deliverAll (fresh initial) story).state,
        .error (if 0 < number ∧ number + 1 < story.length then Runner.joinFailure else payload)⟩
      (if number = 0 then instrument.embed state [] else
        instrument.embed (suite.course settle state).1 (calls (suite.chronicle settle state))) := by
  obtain ⟨books, ran⟩ := instrument.tracks_root suite boundary formatter initial state [] .zero
  rw [whole] at ran
  exact Runner.yields_conduct_of_panicsAt ran.2 panics

theorem delivered_of_panicsAt (whole : cut? boundary (suite.chronicle settle state) = none)
    (panics : formatter.PanicsAt initial (suite.course settle state).2.story number payload) :
    (instrument.runner suite boundary formatter initial).delivered (instrument.embed state []) =
      (suite.course settle state).2.story.take (number + 1) := by
  obtain ⟨alike, kept⟩ := panics.recording
  have conducted := instrument.yields_conduct_of_panicsAt whole alike
  unfold Runner.delivered
  rw [show (Future.complete _ (Runner.recorded _).conduct).result = _ from conducted.1]
  exact kept

end Instrument

namespace Suite

variable {suite : Suite (Label × Action State)} {boundary : Boundary}
  {formatter : Formatter Kept Error} {initial : Kept} {state : State} {number : Nat}
  {payload : Payload}

/-- A run that is not cut off is seen to take the whole course if its formatter does not panic
before anything is called, and the panic takes nothing from it but its report. -/
theorem observe_of_panicsAt (whole : cut? boundary (suite.chronicle settling state) = none)
    (panics : formatter.PanicsAt initial (suite.course settling state).2.story number payload) :
    let story := (suite.course settling state).2.story
    suite.observe boundary formatter initial state =
      ⟨.error (if 0 < number ∧ number + 1 < story.length then Runner.joinFailure else payload),
        if number = 0 then state else (suite.course settling state).1,
        if number = 0 then [] else Note.inTurn (calls (suite.chronicle settling state)),
        story.take (number + 1)⟩ := by
  intro story
  have plain := (Instrument.plain (Prod.snd : Label × Action State → _)).yields_conduct_of_panicsAt
    whole panics
  have witnessed := Instrument.witnessing.yields_conduct_of_panicsAt whole panics
  have delivered := (Instrument.plain (Prod.snd : Label × Action State → _)).delivered_of_panicsAt
    whole panics
  show Observation.mk _ _ _ _ = _
  rw [Observation.mk.injEq]
  refine ⟨(plain.bind_unwinds ⟨rfl, rfl⟩).1, (plain.bind_unwinds ⟨rfl, rfl⟩).2, ?_, delivered⟩
  refine (congrArg Prod.snd (witnessed.bind_unwinds ⟨rfl, rfl⟩).2).trans ?_
  split <;> rfl

/-- A formatter that panics at some event of a run that its boundary does not cut off is told of
nothing behind that event, and the run panics instead of returning its report. If it was the first
event, nothing is called. If it was a later one, the calls are those of the run that nobody listens
to, down to the last one, and the state that they leave is the same. The panic of a formatter on its
thread leaves the run as the failure to join the thread. -/
theorem observeBeside_panicking (suite : Suite (Label × Action State)) (boundary : Boundary)
    (formatter : Formatter Kept Error) (initial : Kept) (state : State) (pace quietPace : Pace)
    (number : Nat) (payload : Payload)
    (contained : cut? boundary (suite.chronicle settling state) = none)
    (panics : formatter.PanicsAt initial (suite.agenda settling boundary state) number payload) :
    let agenda := suite.agenda settling boundary state
    let seen := suite.observeBeside pace boundary formatter initial state
    let quiet := suite.observeBeside quietPace boundary (.silent : Formatter Unit Empty) () state
    seen.events = agenda.take (number + 1) ∧
      (number = 0 → seen.notes = [] ∧ seen.left = state ∧ seen.result = .error payload) ∧
      (0 < number → seen.notes = quiet.notes ∧ seen.left = quiet.left ∧
        seen.result =
          .error (if number + 1 < agenda.length then Runner.joinFailure else payload)) ∧
      (∃ report, quiet.result = .ok report) ∧ quiet.events = agenda := by
  intro agenda seen quiet
  have story : agenda = (suite.course settling state).2.story := agenda_of_whole contained
  replace panics : formatter.PanicsAt initial agenda number payload := panics
  rw [story] at panics
  have reached : seen = _ := (suite.observeBeside_eq pace _ _ _ _).trans
    (observe_of_panicsAt contained panics)
  have silent : (Formatter.silent : Formatter Unit Empty).Calm := fun _ _ _ accepted => nomatch accepted
  have whole : quiet = _ := (suite.observeBeside_eq quietPace _ _ _ _).trans
    (observe_of_whole contained (silent.endures () _))
  rw [reached, whole, story]
  refine ⟨rfl, ?_, ?_, ⟨_, rfl⟩, rfl⟩
  · rintro rfl
    exact ⟨rfl, rfl, rfl⟩
  · intro later
    have called : number ≠ 0 := Nat.ne_of_gt later
    exact ⟨if_neg called, if_neg called, by simp only [later, true_and]⟩

/-- A formatter that panics at the start of a group. -/
def timid : Formatter Nat String :=
  ⟨fun count event =>
    (count + 1, if event.kind = .groupStart then .panicked (.text "a group") else .accepted)⟩

/-- The formatter is lost at the header of the inner group, and everything in that group runs. -/
theorem observeBeside_panicking_parting :
    timid.PanicsAt 0 (parting.agenda settling .standard 0) 2 (.text "a group") ∧
      let seen := parting.observeBeside id .standard timid 0 0
      seen.left = 212 ∧ seen.notes = (parting.observe .standard picky () 0).notes ∧
        seen.result = .error Runner.joinFailure ∧
        seen.events = [.runStart 3,
          .testOutcome "early" 1 ⟨.failed ⟨.test, .error "no"⟩, none⟩, .groupStart "inner" 1] := by
  have panics : timid.PanicsAt 0 (parting.agenda settling .standard 0) 2 (.text "a group") :=
    ⟨rfl, _, rfl, rfl⟩
  obtain ⟨told, _, later, _, _⟩ := observeBeside_panicking parting .standard timid 0 0 id
    (fun _ => 0) 2 (.text "a group") (cut?_isolating true _) panics
  obtain ⟨notes, left, result⟩ := later Nat.two_pos
  have quiet := parting.observeBeside_eq (fun _ => 0) .standard (.silent : Formatter Unit Empty) () 0
  rw [quiet] at notes left
  exact ⟨panics, left, notes, result, told⟩

end Suite

end TestTree
