/-
This file defines what it takes for a future not to be disturbed by others.

A footprint says what a computation looks at and what it does: which states are the same to it,
and by which edits it changes them. A future is steady for a footprint if, at each of its polls,
two states that are the same to it make no difference: it sends the same signals, makes the same
edit, and ends the poll in the same way. Whoever works between its polls can then do anything that
leaves the state the same to it. Every way to build futures keeps them steady.
-/

import TestTree.Proofs.Future.Polls

namespace TestTree

/-! ### Footprints -/

/-- What a computation looks at and what it does. An edit keeps states the same that were the
same before. -/
structure Footprint (State : Type) where
  Agree : State → State → Prop
  Edit : (State → State) → Prop
  agree_refl : ∀ state, Agree state state
  edit_id : Edit id
  edit_comp : ∀ {first second}, Edit first → Edit second → Edit (second ∘ first)
  agree_edit : ∀ {one other edit}, Agree one other → Edit edit → Agree (edit one) (edit other)

/-- A part of the state that nobody else knows can be looked at as a whole, and any change of it
is an edit. -/
def Footprint.beside {State : Type} (footprint : Footprint State) (Part : Type) :
    Footprint (State × Part) where
  Agree one other := footprint.Agree one.1 other.1 ∧ one.2 = other.2
  Edit edit := ∃ change own, footprint.Edit change ∧ edit = Prod.map change own
  agree_refl state := ⟨footprint.agree_refl state.1, rfl⟩
  edit_id := ⟨id, id, footprint.edit_id, rfl⟩
  edit_comp := by
    rintro _ _ ⟨change, own, edits, rfl⟩ ⟨later, last, edited, rfl⟩
    exact ⟨later ∘ change, last ∘ own, footprint.edit_comp edits edited, rfl⟩
  agree_edit := by
    rintro ⟨one, part⟩ ⟨other, _⟩ _ ⟨same, rfl⟩ ⟨change, own, edits, rfl⟩
    exact ⟨footprint.agree_edit same edits, rfl⟩

section

variable {State Value Other Part : Type} {footprint : Footprint State}

/-! ### Steady computations -/

/-- An immediate computation that sends the same signals, makes the same edit and has the same
result wherever the state is the same to it. -/
def Immediate.Steady (footprint : Footprint State) (computation : Immediate State Value) : Prop :=
  ∀ one other, footprint.Agree one other → ∃ edit signals result, footprint.Edit edit ∧
    computation.run one = ⟨signals, edit one, result⟩ ∧
    computation.run other = ⟨signals, edit other, result⟩

/-- The next poll of a future is the same wherever the state is the same to it. -/
def Future.Alike (footprint : Footprint State) (future : Future State Value) : Prop :=
  ∀ one other, footprint.Agree one other → ∃ edit signals progress, footprint.Edit edit ∧
    future.poll one = ⟨signals, edit one, progress⟩ ∧
    future.poll other = ⟨signals, edit other, progress⟩

/-- Every poll of a future is the same wherever the state is the same to it, at whichever states
the polls before it were. -/
inductive Future.Steady (footprint : Footprint State) : Future State Value → Prop where
  | intro (future : Future State Value) (alike : future.Alike footprint)
      (later : ∀ state rest, (future.poll state).progress = .pending rest →
        rest.Steady footprint) : future.Steady footprint

/-- A computation with a continuation has a value only if the continuation has it. -/
theorem Immediate.exists_of_bind {computation : Immediate State Value}
    {next : Value → Immediate State Other} {state : State} {other : Other}
    (ended : ((computation.bind next).run state).result = .ok other) :
    ∃ value, (computation.run state).result = .ok value ∧
      ((next value).run (computation.run state).state).result = .ok other := by
  unfold Immediate.bind at ended
  simp only [run] at *
  cases result : (computation state).result with
  | error payload =>
    rw [result] at ended
    cases ended
  | ok value =>
    rw [result] at ended
    exact ⟨value, rfl, ended⟩

namespace Immediate.Steady

theorem pure (value : Value) : (Pure.pure value : Immediate State Value).Steady footprint :=
  fun _ _ _ => ⟨id, [], .ok value, footprint.edit_id, rfl, rfl⟩

theorem panic (cause : Panic) : (Immediate.panic cause : Immediate State Value).Steady footprint :=
  fun _ _ _ => ⟨id, cause.signals .main, .error cause.payload, footprint.edit_id, rfl, rfl⟩

theorem modify {change : State → State} (edits : footprint.Edit change) :
    (Immediate.modify change).Steady footprint :=
  fun _ _ _ => ⟨change, [], .ok (), edits, rfl, rfl⟩

/-- Only the values that the first computation can have are continued with. -/
theorem bind_of {computation : Immediate State Value} {next : Value → Immediate State Other}
    (first : computation.Steady footprint)
    (second : ∀ state value, (computation.run state).result = .ok value →
      (next value).Steady footprint) : (computation.bind next).Steady footprint := by
  intro one other same
  obtain ⟨edit, signals, result, edits, ranOne, ranOther⟩ := first one other same
  have reached := second one
  unfold Immediate.bind
  simp only [run] at *
  rw [ranOne] at reached
  rw [ranOne, ranOther]
  cases result with
  | error payload => exact ⟨edit, signals, .error payload, edits, rfl, rfl⟩
  | ok value =>
    obtain ⟨last, more, result, edited, thenOne, thenOther⟩ :=
      reached value rfl (edit one) (edit other) (footprint.agree_edit same edits)
    simp only [run] at *
    simp only [thenOne, thenOther]
    exact ⟨last ∘ edit, signals ++ more, result, footprint.edit_comp edits edited, rfl, rfl⟩

theorem bind {computation : Immediate State Value} {next : Value → Immediate State Other}
    (first : computation.Steady footprint) (second : ∀ value, (next value).Steady footprint) :
    (computation.bind next).Steady footprint :=
  first.bind_of fun _ value _ => second value

theorem onFirst {computation : Immediate State Value} (steady : computation.Steady footprint) :
    (computation.onFirst : Immediate (State × Part) Value).Steady (footprint.beside Part) := by
  rintro ⟨one, part⟩ ⟨other, _⟩ ⟨same, rfl⟩
  obtain ⟨edit, signals, result, edits, ranOne, ranOther⟩ := steady one other same
  refine ⟨Prod.map edit id, signals, result, ⟨edit, id, edits, rfl⟩, ?_, ?_⟩
  · show Left.mk _ (_, _) _ = _
    rw [ranOne]
    rfl
  · show Left.mk _ (_, _) _ = _
    rw [ranOther]
    rfl

end Immediate.Steady

namespace Future.Steady

theorem alike {future : Future State Value} (steady : future.Steady footprint) :
    future.Alike footprint := by
  cases steady with
  | intro _ alike _ => exact alike

theorem later {future rest : Future State Value} {state : State}
    (steady : future.Steady footprint) (ended : (future.poll state).progress = .pending rest) :
    rest.Steady footprint := by
  cases steady with
  | intro _ _ later => exact later state rest ended

/-! ### Elementary futures -/

theorem ready (value : Value) : (Future.ready value : Future State Value).Steady footprint :=
  .intro _ (fun _ _ _ => ⟨id, [], .ready value, footprint.edit_id, rfl, rfl⟩)
    fun _ _ ended => nomatch ended

theorem unwind (payload : Payload) :
    (Future.unwind payload : Future State Value).Steady footprint :=
  .intro _ (fun _ _ _ => ⟨id, [], .unwound payload, footprint.edit_id, rfl, rfl⟩)
    fun _ _ ended => nomatch ended

theorem ofExcept (result : Except Payload Value) :
    (Future.ofExcept result : Future State Value).Steady footprint := by
  cases result with
  | ok value => exact ready value
  | error payload => exact unwind payload

theorem pending {rest : Future State Value} (steady : rest.Steady footprint) :
    (Future.pending rest).Steady footprint := by
  refine .intro _ (fun _ _ _ => ⟨id, [], .pending rest, footprint.edit_id, rfl, rfl⟩) ?_
  rintro state _ ended
  cases ended
  exact steady

theorem suspend (times : Nat) : (Future.suspend times : Future State Unit).Steady footprint := by
  induction times with
  | zero => exact ready ()
  | succ times inductionHypothesis => exact pending inductionHypothesis

theorem modify {change : State → State} (edits : footprint.Edit change) :
    (Future.modify change).Steady footprint :=
  .intro _ (fun _ _ _ => ⟨change, [], .ready (), edits, rfl, rfl⟩)
    fun _ _ ended => nomatch ended

/-- A future that reads the state and does not look at it. -/
theorem constant {future : Future State Value} (steady : future.Steady footprint) :
    (Future.read fun _ => future).Steady footprint :=
  .intro _ steady.alike fun _ _ ended => steady.later ended

theorem sendAll {rest : Future State Value} (signals : List Signal)
    (steady : rest.Steady footprint) : (Future.sendAll signals rest).Steady footprint := by
  refine .intro _ ?_ ?_
  · intro one other same
    obtain ⟨edit, more, progress, edits, polledOne, polledOther⟩ := steady.alike one other same
    refine ⟨edit, signals ++ more, progress, edits, ?_, ?_⟩
    · rw [poll_sendAll, polledOne]
      rfl
    · rw [poll_sendAll, polledOther]
      rfl
  · intro state last ended
    rw [poll_sendAll] at ended
    exact steady.later ended

theorem send {rest : Future State Value} (signal : Signal) (steady : rest.Steady footprint) :
    (Future.send signal rest).Steady footprint :=
  steady.sendAll [signal]

/-! ### Sequencing -/

theorem bind {future : Future State Value} {next : Value → Future State Other}
    (first : future.Steady footprint) (second : ∀ value, (next value).Steady footprint) :
    (future.bind next).Steady footprint := by
  induction first with
  | intro future alike _ inductionHypothesis =>
    refine .intro _ ?_ ?_
    · intro one other same
      obtain ⟨edit, signals, progress, edits, polledOne, polledOther⟩ := alike one other same
      rw [poll_bind, poll_bind, polledOne, polledOther]
      cases progress with
      | ready value =>
        obtain ⟨last, more, progress, edited, thenOne, thenOther⟩ :=
          (second value).alike _ _ (footprint.agree_edit same edits)
        refine ⟨last ∘ edit, signals ++ more, progress, footprint.edit_comp edits edited, ?_, ?_⟩
        · simp only [thenOne]
          rfl
        · simp only [thenOther]
          rfl
      | unwound payload => exact ⟨edit, signals, .unwound payload, edits, rfl, rfl⟩
      | pending rest => exact ⟨edit, signals, .pending (rest.bind next), edits, rfl, rfl⟩
    · intro state last ended
      rw [poll_bind] at ended
      cases polled : (future.poll state).progress with
      | ready value =>
        rw [polled] at ended
        exact (second value).later ended
      | unwound payload =>
        rw [polled] at ended
        cases ended
      | pending rest =>
        rw [polled] at ended
        cases ended
        exact inductionHypothesis state rest polled

/-- A computation goes on with a future that is the same wherever the state is the same to it. -/
theorem follow {computation : Immediate State (Future State Value)}
    (steady : computation.Steady footprint)
    (results : ∀ state future, (computation.run state).result = .ok future →
      future.Steady footprint) : computation.follow.Steady footprint := by
  refine .intro _ ?_ ?_
  · intro one other same
    obtain ⟨edit, signals, result, edits, ranOne, ranOther⟩ := steady one other same
    have from' := results one
    rw [poll_follow, poll_follow, ranOne, ranOther]
    rw [ranOne] at from'
    cases result with
    | error payload => exact ⟨edit, signals, .unwound payload, edits, rfl, rfl⟩
    | ok future =>
      obtain ⟨last, more, progress, edited, thenOne, thenOther⟩ :=
        (from' future rfl).alike _ _ (footprint.agree_edit same edits)
      refine ⟨last ∘ edit, signals ++ more, progress, footprint.edit_comp edits edited, ?_, ?_⟩
      · simp only [thenOne]
        rfl
      · simp only [thenOther]
        rfl
  · intro state last ended
    rw [poll_follow] at ended
    cases result : (computation.run state).result with
    | error payload =>
      rw [result] at ended
      cases ended
    | ok future =>
      rw [result] at ended
      exact (results state future result).later ended

theorem toFuture {computation : Immediate State Value} (steady : computation.Steady footprint) :
    computation.toFuture.Steady footprint := by
  refine follow (steady.bind fun value => .pure _) ?_
  intro state future ended
  obtain ⟨value, _, returned⟩ := Immediate.exists_of_bind ended
  cases returned
  exact ready value

/-! ### Catching -/

theorem attempt {future : Future State Value} (steady : future.Steady footprint) :
    future.attempt.Steady footprint := by
  induction steady with
  | intro future alike _ inductionHypothesis =>
    refine .intro _ ?_ ?_
    · intro one other same
      obtain ⟨edit, signals, progress, edits, polledOne, polledOther⟩ := alike one other same
      rw [poll_attempt, poll_attempt, polledOne, polledOther]
      exact ⟨edit, signals, _, edits, rfl, rfl⟩
    · intro state last ended
      rw [poll_attempt] at ended
      cases polled : (future.poll state).progress <;> rw [polled] at ended <;> cases ended
      exact inductionHypothesis state _ polled

/-! ### Spans -/

theorem instrument (name : String) {future : Future State Value}
    (steady : future.Steady footprint) : (future.instrument name).Steady footprint := by
  induction steady with
  | intro future alike _ inductionHypothesis =>
    refine send _ (.intro _ ?_ ?_)
    · intro one other same
      obtain ⟨edit, signals, progress, edits, polledOne, polledOther⟩ := alike one other same
      rw [poll_withinSpan, poll_withinSpan, polledOne, polledOther]
      exact ⟨edit, _, _, edits, rfl, rfl⟩
    · intro state last ended
      rw [poll_withinSpan] at ended
      cases polled : (future.poll state).progress <;> rw [polled] at ended <;> cases ended
      exact inductionHypothesis state _ polled

/-! ### Parts of the state -/

theorem onFirst {future : Future State Value} (steady : future.Steady footprint) :
    (future.onFirst : Future (State × Part) Value).Steady (footprint.beside Part) := by
  induction steady with
  | intro future alike _ inductionHypothesis =>
    refine .intro _ ?_ ?_
    · rintro ⟨one, part⟩ ⟨other, _⟩ ⟨same, rfl⟩
      obtain ⟨edit, signals, progress, edits, polledOne, polledOther⟩ := alike one other same
      rw [poll_onFirst, poll_onFirst, polledOne, polledOther]
      exact ⟨Prod.map edit id, signals, _, ⟨edit, id, edits, rfl⟩, rfl, rfl⟩
    · rintro ⟨state, part⟩ last ended
      rw [poll_onFirst] at ended
      cases polled : (future.poll state).progress <;> rw [polled] at ended <;> cases ended
      exact inductionHypothesis state _ polled

theorem collect {future : Future (State × Part) Value} (own : Part)
    (steady : future.Steady (footprint.beside Part)) : (future.collect own).Steady footprint := by
  induction steady generalizing own with
  | intro future alike _ inductionHypothesis =>
    refine .intro _ ?_ ?_
    · intro one other same
      obtain ⟨_, signals, progress, ⟨edit, change, edits, rfl⟩, polledOne, polledOther⟩ :=
        alike (one, own) (other, own) ⟨same, rfl⟩
      rw [poll_collect, poll_collect, polledOne, polledOther]
      exact ⟨edit, signals, _, edits, rfl, rfl⟩
    · intro state last ended
      rw [poll_collect] at ended
      cases polled : (future.poll (state, own)).progress <;> rw [polled] at ended <;> cases ended
      exact inductionHypothesis (state, own) _ polled _

theorem confine {future : Future (State × Part) Value} (own : Part)
    (steady : future.Steady (footprint.beside Part)) : (future.confine own).Steady footprint :=
  (steady.collect own).bind fun _ => ofExcept _

/-! ### Completion -/

/-- Driven to its end without others in between, a steady future comes to the same from states
that are the same to it. -/
theorem complete {future : Future State Value} (steady : future.Steady footprint)
    {one other : State} (same : footprint.Agree one other) :
    ∃ edit signals result suspensions, footprint.Edit edit ∧
      future.complete one = ⟨signals, edit one, result, suspensions⟩ ∧
      future.complete other = ⟨signals, edit other, result, suspensions⟩ := by
  induction steady generalizing one other with
  | intro future alike _ inductionHypothesis =>
    obtain ⟨edit, signals, progress, edits, polledOne, polledOther⟩ := alike one other same
    rw [complete_eq_poll, complete_eq_poll, polledOne, polledOther]
    cases progress with
    | ready value => exact ⟨edit, signals, .ok value, 0, edits, rfl, rfl⟩
    | unwound payload => exact ⟨edit, signals, .error payload, 0, edits, rfl, rfl⟩
    | pending rest =>
      have waits : (future.poll one).progress = .pending rest := by rw [polledOne]
      obtain ⟨last, more, result, suspensions, edited, thenOne, thenOther⟩ :=
        inductionHypothesis one rest waits (footprint.agree_edit same edits)
      refine ⟨last ∘ edit, signals ++ more, result, suspensions + 1,
        footprint.edit_comp edits edited, ?_, ?_⟩
      · simp only [Polled.complete, thenOne, Function.comp_apply]
      · simp only [Polled.complete, thenOther, Function.comp_apply]

theorem uninterrupted {future : Future State Value} (steady : future.Steady footprint) :
    future.uninterrupted.Steady footprint := by
  refine .intro _ ?_ ?_
  · intro one other same
    obtain ⟨edit, signals, result, suspensions, edits, completedOne, completedOther⟩ :=
      steady.complete same
    rw [poll_uninterrupted, poll_uninterrupted, completedOne, completedOther]
    exact ⟨edit, signals, .of result, edits, rfl, rfl⟩
  · intro state last ended
    rw [poll_uninterrupted] at ended
    cases result : (future.complete state).result <;> rw [result] at ended <;> cases ended

end Future.Steady

end

end TestTree
