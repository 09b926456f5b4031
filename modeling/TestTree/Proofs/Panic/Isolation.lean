/-
This file proves that the boundary around an action tells exactly how the action ended.

What a caller gives to the boundary works on a state, sends signals, suspends, and returns or panics
wherever it likes. The boundary calls it once and at once. The future it hands back is polled as
often as that of the work itself and has the same effects at each poll. Only the end differs: an
isolating boundary turns every end into a result, a transparent one does so with the ends that are
no panics and lets a panic go on from the call or the poll it happened in.

An isolating boundary disposes of the payloads that it catches, at the first poll after a call that
panicked and else at the poll that panicked. If a payload is no text, its destructor runs then, and
this is the one thing that is not isolated. The future unwinds if and only if the destructor panics,
whatever the work did before.
-/

import TestTree.Panic.Boundary
import TestTree.Proofs.Future.Interference

namespace TestTree

variable {State : Type}

/-! ### Work -/

/-- The work that an action is made of: a start that yields a future, or a body that does everything
when it is called. It returns nothing of interest or an error value. -/
inductive Work (State : Type) where
  | asynchronous (start : Immediate State (Future State (Except Complaint Unit)))
  | blocking (body : Immediate State (Except Complaint Unit))

namespace Work

/-- The action of some work, which reports the detailed text of an error. -/
def action : Work State → Action State
  | .asynchronous start => .asynchronous <| start.bind fun future => pure <|
      future.bind fun returned => .ready (.ofResult returned)
  | .blocking body => .blocking <| body.bind fun returned => pure (.ofResult returned)

/-- What happens when the work is called: the start of asynchronous work, all of blocking work. -/
def begin : Work State → Immediate State (Future State (Except Complaint Unit))
  | .asynchronous start => start
  | .blocking body => body.bind fun returned => pure (.ready returned)

/-- What is left of the work after its call on a state, driven to its end from a later state while
others change the state in between. A call that panicked leaves nothing but its panic. -/
def driven (work : Work State) (state later : State) (others : Nat → State → State) :
    Future.Completed State (Except Complaint Unit) :=
  match (work.begin.run state).result with
  | .error payload => ⟨[], later, .error payload, 0⟩
  | .ok future => future.completeAmid others later

/-- Calling the action is calling the work. -/
theorem run_call_action (work : Work State) (state : State) :
    work.action.call.run state =
      let begun := work.begin.run state
      ⟨begun.signals, begun.state, begun.result.map fun future =>
        future.bind fun returned => .ready (.ofResult returned)⟩ := by
  cases work with
  | asynchronous start => exact Immediate.run_bind_pure start _ state
  | blocking body =>
    show (Immediate.bind (Immediate.bind body _) _).run state = _
    rw [Immediate.run_bind_pure, Immediate.run_bind_pure, begin, Immediate.run_bind_pure]
    obtain ⟨signals, after, result⟩ := body.run state
    cases result <;> rfl

end Work

/-! ### Ends -/

namespace Boundary

open Future

/-- The end of some work as a result: what an error says in detail, or what can be read of the
payload of a panic. -/
def classify : Except Payload (Except Complaint Unit) → Except Cause Unit
  | .ok (.ok ()) => .ok ()
  | .ok (.error complaint) => .error (.error complaint.detailed)
  | .error payload => .error (.panicked payload.message)

/-- What the payload of some work leaves when it is dropped on a state. Nothing is dropped unless
the work panicked with a value that is no text, and without a destructor nothing happens to it. -/
def dropped (destructor : Option (Immediate State Unit))
    (ended : Except Payload (Except Complaint Unit)) (state : State) : Immediate.Left State Unit :=
  match ended, destructor with
  | .error .other, some body => body.run state
  | _, _ => ⟨[], state, .ok ()⟩

/-- What becomes of some work that was driven to its end: its effects, those of dropping its
payload, and a result unless the destructor panicked. -/
def isolated (destructor : Option (Immediate State Unit))
    (own : Completed State (Except Complaint Unit)) : Completed State (Except Cause Unit) :=
  let left := dropped destructor own.result own.state
  ⟨own.signals ++ left.signals, left.state, left.result.map fun () => classify own.result,
    own.suspensions⟩

/-- The end of some work is told in one poll, in which its payload is dropped. -/
theorem completeAmid_settle (destructor : Option (Immediate State Unit))
    (ended : Except Payload (Except Complaint Unit)) (others : Nat → State → State)
    (state : State) :
    (settle destructor (ended.map .ofResult)).completeAmid others state =
      let left := dropped destructor ended state
      ⟨left.signals, left.state, left.result.map fun () => classify ended, 0⟩ := by
  rcases ended with (_ | _) | complaint | _
  case error.text message => rfl
  case ok.error => rfl
  case ok.ok => rfl
  case error.other =>
    cases destructor with
    | none => rfl
    | some body =>
      show (body.toFuture.bind _).completeAmid others state = _
      rw [completeAmid_bind, completeAmid_toFuture, dropped]
      obtain ⟨signals, after, result⟩ := body.run state
      cases result with
      | error payload => rfl
      | ok _ => simp only [Completed.andThen, completeAmid, List.append_nil, Except.map, classify]

/-- A future that was driven to its end beside some work has the effects of the work and then those
of dropping its payload, suspended as often as the work, and unwound if and only if the destructor
of the payload panics. Its result says how the work ended. -/
structure Classified (destructor : Option (Immediate State Unit))
    (own : Completed State (Except Complaint Unit))
    (told : Completed State (Except Cause Unit)) : Prop where
  signals : told.signals = own.signals ++ (dropped destructor own.result own.state).signals
  state : told.state = (dropped destructor own.result own.state).state
  suspensions : told.suspensions = own.suspensions
  calm_iff : (∃ result, told.result = .ok result) ↔
    (dropped destructor own.result own.state).result = .ok ()
  unwinds_iff : ∀ payload, told.result = .error payload ↔
    (dropped destructor own.result own.state).result = .error payload
  ok_iff : told.result = .ok (.ok ()) ↔ own.result = .ok (.ok ())
  error_iff : ∀ message, told.result = .ok (.error (.error message)) ↔
    ∃ complaint, own.result = .ok (.error complaint) ∧ complaint.detailed = message
  panicked_iff : ∀ message, told.result = .ok (.error (.panicked message)) ↔
    (dropped destructor own.result own.state).result = .ok () ∧ ∃ payload,
      own.result = .error payload ∧ payload.text?.getD "non-string panic payload" = message

/-- What becomes of the work tells how it ended. -/
theorem classified_isolated (destructor : Option (Immediate State Unit))
    (own : Completed State (Except Complaint Unit)) :
    Classified destructor own (isolated destructor own) := by
  obtain ⟨signals, state, ended, suspensions⟩ := own
  -- The two ways to read a payload agree.
  have read : ∀ payload : Payload,
      payload.message = payload.text?.getD "non-string panic payload" := fun payload => by
    cases payload <;> rfl
  unfold isolated
  cases left : (dropped destructor ended state).result with
  | error thrown =>
    -- Only work that panicked leaves something to drop.
    have panicked : ∀ returned, ended ≠ .ok returned := by
      rintro returned rfl
      cases left
    refine ⟨rfl, rfl, rfl, ?_, fun payload => ?_, ?_, fun message => ?_, fun message => ?_⟩ <;>
      simp [left, panicked, Except.map]
  | ok _ =>
    refine ⟨rfl, rfl, rfl, ?_, fun payload => ?_, ?_, fun message => ?_, fun message => ?_⟩ <;>
      rcases ended with payload | complaint | _ <;> simp [left, classify, read, Except.map]

/-- A future that was driven to its end beside some work ended like one that isolates the work,
unless the work panicked. Then it did the same up to the panic, and unwound with its payload, which
it did not drop. -/
structure LetThrough (own : Completed State (Except Complaint Unit))
    (isolated told : Completed State (Except Cause Unit)) : Prop where
  calm : ∀ returned, own.result = .ok returned → told = isolated
  panicked : ∀ payload, own.result = .error payload →
    told = ⟨own.signals, own.state, .error payload, own.suspensions⟩

theorem letThrough_isolated (destructor : Option (Immediate State Unit))
    (own : Completed State (Except Complaint Unit)) :
    LetThrough own (isolated destructor own)
      ⟨own.signals, own.state, (own.result.map .ofResult).map ofVerdict, own.suspensions⟩ := by
  obtain ⟨signals, state, ended, suspensions⟩ := own
  refine ⟨fun returned calm => ?_, fun payload panicked => ?_⟩
  · obtain rfl : ended = .ok returned := calm
    rcases returned with complaint | _ <;>
      exact congrArg (fun sent => Completed.mk sent _ _ _) (List.append_nil _).symm
  · obtain rfl : ended = .error payload := panicked
    rfl

/-! ### The two boundaries -/

/-- An isolating boundary hands back a future that isolates the work. -/
theorem run_enclose_isolating (work : Work State) (destructor : Option (Immediate State Unit))
    (silent : Bool) (state : State) :
    ∃ future, ((isolating silent).encloseDropping destructor work.action.call).run state =
        ⟨(work.begin.run state).signals, (work.begin.run state).state, .ok future⟩ ∧
      ∀ later others, future.completeAmid others later =
        isolated destructor (work.driven state later others) := by
  have called := work.run_call_action state
  unfold Work.driven
  simp only [encloseDropping, Immediate.run] at called ⊢
  rw [called]
  obtain ⟨signals, after, result⟩ := work.begin state
  cases result with
  | error payload =>
    exact ⟨_, rfl, fun later others => completeAmid_settle destructor (.error payload) others later⟩
  | ok own =>
    refine ⟨_, rfl, fun later others => ?_⟩
    show (Future.bind (settle destructor) (Future.attempt _)).completeAmid others later = _
    rw [completeAmid_bind, completeAmid_attempt, completeAmid_bind_ready]
    simp only [Completed.andThen, completeAmid_settle, Nat.add_zero]
    rfl

/-- A transparent boundary hands back a future unless the call panics, and the future unwinds where
the work does. -/
theorem run_enclose_transparent (work : Work State) (destructor : Option (Immediate State Unit))
    (state : State) :
    (transparent.encloseDropping destructor work.action.call).run state =
      let begun := work.begin.run state
      ⟨begun.signals, begun.state, begun.result.map fun future =>
        (future.bind fun returned => .ready (.ofResult returned)).bind fun verdict =>
          .ready (ofVerdict verdict)⟩ := by
  rw [encloseDropping, Immediate.run_bind_pure, work.run_call_action]
  obtain ⟨signals, after, result⟩ := work.begin.run state
  cases result <;> rfl

/-- A call through a boundary is one call of the work, made at once: of blocking work nothing is
left to do afterwards, and of asynchronous work only the start was done. What is handed back
isolates the work, unless the destructor of its payload panics, or lets its panic through. -/
theorem encloseDropping_classifies (work : Work State)
    (destructor : Option (Immediate State Unit)) (silent : Bool) (state : State) :
    let begun := work.begin.run state
    let caught := ((isolating silent).encloseDropping destructor work.action.call).run state
    let bare := (transparent.encloseDropping destructor work.action.call).run state
    (caught.signals = begun.signals ∧ caught.state = begun.state) ∧
    (bare.signals = begun.signals ∧ bare.state = begun.state) ∧
    (match work with
      | .asynchronous start =>
        begun.signals = (start.run state).signals ∧ begun.state = (start.run state).state
      | .blocking body =>
        begun.signals = (body.run state).signals ∧ begun.state = (body.run state).state ∧
          ∀ later others, (work.driven state later others).signals = [] ∧
            (work.driven state later others).state = later ∧
            (work.driven state later others).suspensions = 0) ∧
    ∃ future, caught.result = .ok future ∧
      (∀ later others,
        Classified destructor (work.driven state later others)
          (future.completeAmid others later)) ∧
      match begun.result with
      | .error payload => bare.result = .error payload
      | .ok _ => ∃ passing, bare.result = .ok passing ∧ ∀ later others,
        LetThrough (work.driven state later others) (future.completeAmid others later)
          (passing.completeAmid others later) := by
  intro begun caught bare
  obtain ⟨future, handed, told⟩ := run_enclose_isolating work destructor silent state
  have passed := run_enclose_transparent work destructor state
  refine ⟨?_, ?_, ?_, future, ?_, fun later others => ?_, ?_⟩
  · exact ⟨congrArg Immediate.Left.signals handed, congrArg Immediate.Left.state handed⟩
  · exact ⟨congrArg Immediate.Left.signals passed, congrArg Immediate.Left.state passed⟩
  · cases work with
    | asynchronous start => exact ⟨rfl, rfl⟩
    | blocking body =>
      simp only [begun, Work.driven, Work.begin, Immediate.run_bind_pure]
      refine ⟨trivial, trivial, fun later others => ?_⟩
      cases (body.run state).result <;> exact ⟨rfl, rfl, rfl⟩
  · exact congrArg Immediate.Left.result handed
  · rw [told]
    exact classified_isolated destructor _
  · cases result : begun.result with
    | error payload =>
      refine (congrArg Immediate.Left.result passed).trans ?_
      exact congrArg (Except.map _) result
    | ok own =>
      refine ⟨_, (congrArg Immediate.Left.result passed).trans (congrArg (Except.map _) result),
        fun later others => ?_⟩
      have same : work.driven state later others = own.completeAmid others later := by
        unfold Work.driven
        rw [result]
      rw [told, same, completeAmid_bind_ready, completeAmid_bind_ready]
      exact letThrough_isolated destructor _

/-- Work that panics at its first poll with a value that is no text. -/
def explosive : Work Unit :=
  .asynchronous (pure (.send (.panicked .main .other) (.unwind .other)))

/-- The destructor of this value panics as well, and nobody catches that. -/
theorem unwinds_explosive :
    ∃ future, (standard.encloseDropping (some (Immediate.panic (.raised (.text "dropped"))))
        explosive.action.call).run () = ⟨[], (), .ok future⟩ ∧
      future.complete () = ⟨[.panicked .main .other, .panicked .main (.text "dropped")], (),
        .error (.text "dropped"), 0⟩ ∧
      ¬ ∃ result, (future.complete ()).result = .ok result :=
  ⟨_, rfl, rfl, nofun⟩

end Boundary

end TestTree
