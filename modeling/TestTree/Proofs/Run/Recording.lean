/-
This file proves that a run is not changed by keeping what its formatter is told.

A recording formatter answers as the formatter does, so a run under it is the same run, poll by
poll, and what it concludes with is what the run concludes with beside the events that the
formatter was told of.
-/

import TestTree.Proofs.Run.Call
import TestTree.Proofs.Run.Conclusion

namespace TestTree

variable {State Kept Error : Type}

/-- A value that is changed at the end is changed outside as well as inside. -/
theorem Future.confine_bind_ready {Value Other Part : Type} (own : Part)
    (future : Future (State × Part) Value) (change : Value → Other) :
    (future.bind fun value => .ready (change value)).confine own =
      (future.confine own).bind fun value => .ready (change value) := by
  unfold confine
  induction future generalizing own with
  | ready => rfl
  | unwind => rfl
  | pending rest inductionHypothesis => exact congrArg Future.pending (inductionHypothesis own)
  | send signal rest inductionHypothesis =>
    exact congrArg (Future.send signal) (inductionHypothesis own)
  | read step inductionHypothesis =>
    refine congrArg Future.read ?_
    funext state
    exact inductionHypothesis (state, own) own
  | write replacement rest inductionHypothesis =>
    exact congrArg (Future.write replacement.1) (inductionHypothesis replacement.2)

/-! ### Forgetting what was recorded -/

/-- What a formatter has done, without what it was told. -/
def Formatter.Delivery.forget (delivery : Delivery (Kept × List Event) Error) :
    Delivery Kept Error :=
  ⟨delivery.state.1, delivery.errors, delivery.panic⟩

/-- How a run ended, without what its formatter was told. -/
def Conclusion.forget (conclusion : Conclusion (Kept × List Event) Error) :
    Conclusion Kept Error :=
  ⟨conclusion.formatter.1, conclusion.result⟩

namespace Formatter

theorem forget_deliver (formatter : Formatter Kept Error)
    (delivery : Delivery (Kept × List Event) Error) (event : Event) :
    (formatter.recording.deliver delivery event).forget =
      formatter.deliver delivery.forget event := by
  obtain ⟨⟨kept, told⟩, errors, panic⟩ := delivery
  cases panic with
  | some payload => rfl
  | none =>
    simp only [deliver, recording, Delivery.forget]
    cases (formatter.react kept event).2 <;> rfl

theorem forget_deliverAll (formatter : Formatter Kept Error)
    (delivery : Delivery (Kept × List Event) Error) (events : List Event) :
    (formatter.recording.deliverAll delivery events).forget =
      formatter.deliverAll delivery.forget events := by
  induction events generalizing delivery with
  | nil => rfl
  | cons event rest inductionHypothesis =>
    show (formatter.recording.deliverAll (formatter.recording.deliver delivery event) rest).forget =
      formatter.deliverAll (formatter.deliver delivery.forget event) rest
    rw [inductionHypothesis, forget_deliver]

end Formatter

/-! ### Recorded runs -/

namespace Runner

/-- What follows a run whose conclusion is reported without what was recorded. -/
abbrev forgetting (conclusion : Conclusion (Kept × List Event) Error) :
    Future State (Conclusion Kept Error) :=
  .ready conclusion.forget

theorem abort_forgetting (boundary : Boundary) (kept : Kept × List Event) (signals : List Signal)
    (payload : Payload) :
    (abort boundary kept signals payload).bind forgetting =
      (abort boundary kept.1 signals payload : Future State (Conclusion Kept Error)) := by
  unfold abort
  rw [Future.bind_sendAll]
  rfl

theorem conclude_recorded (runner : Runner State Kept Error)
    (delivery : Formatter.Delivery (Kept × List Event) Error)
    (result : Except Payload ReportNode) (tally : Tally) :
    (runner.recorded.conclude delivery result tally).bind forgetting =
      (runner.conclude delivery.forget result tally : Future State _) := by
  obtain ⟨⟨kept, told⟩, errors, panic⟩ := delivery
  cases result with
  | error payload => exact abort_forgetting _ _ _ _
  | ok root =>
    cases panic with
    | some payload => exact abort_forgetting _ _ _ _
    | none =>
      refine congrArg (Future.send _) ?_
      have last := Formatter.forget_deliver runner.formatter ⟨(kept, told), errors, none⟩
        (.runOutcomes (summary tally))
      unfold Formatter.Delivery.forget at last ⊢
      simp only [← last, recorded]
      cases (runner.formatter.recording.deliver ⟨(kept, told), errors, none⟩
          (.runOutcomes (summary tally))).panic with
      | some payload => exact abort_forgetting _ _ _ _
      | none => exact Future.bind_sendAll _ _ _

/-- A run under a recording formatter is the run itself, if what was recorded is forgotten. -/
theorem conduct_recorded (runner : Runner State Kept Error) :
    runner.recorded.conduct.bind forgetting = runner.conduct := by
  unfold conduct
  rw [Future.bind_sendAll]
  refine congrArg (Future.sendAll _) ?_
  have opening := Formatter.forget_deliver runner.formatter ⟨(runner.initial, []), [], none⟩
    (.runStart runner.suite.testCount)
  have worked := Formatter.forget_deliverAll runner.formatter (runner.formatter.recording.deliver
    ⟨(runner.initial, []), [], none⟩ (.runStart runner.suite.testCount))
  unfold Formatter.Delivery.forget at opening
  simp only [← opening, recorded]
  cases calm : (runner.formatter.recording.deliver ⟨(runner.initial, []), [], none⟩
      (.runStart runner.suite.testCount)).panic with
  | some payload => exact abort_forgetting _ _ _ _
  | none =>
    refine (Future.bind_assoc _ _ _).trans (congrArg (Future.bind · _) ?_)
    funext ended
    refine (conclude_recorded runner _ ended.1 ended.2).trans ?_
    rw [worked, Formatter.Delivery.forget, calm]

end Runner

end TestTree
