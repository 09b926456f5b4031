/-
This file says what a future tells the log while it is polled, and within which spans.

A telling is a promise about the entries that a future adds to the trace of its process: what holds
of them at each suspension, and what holds of all of them at the end. A future upholds a telling
within some spans if it does so wherever its polls begin with just these spans entered, whatever
else the state and the process are at that moment, and if it leaves the same spans entered when a
poll ends. A future can therefore be polled among others that do the same, in any order.

Whether a future upholds a telling is asked of the tree that the future is, from its root to its
leaves, so there is one rule for each way to build futures, and the rules say nothing about polls.
-/

import TestTree.Future.Immediate
import TestTree.Future.Polling
import TestTree.Future.Together
import TestTree.Host

namespace TestTree

/-! ### Entries that signals add -/

namespace Host

/-- The entries that signals add to the trace. -/
def added (host : Host) (signals : List Signal) : List TraceEntry :=
  (host.receiveAll signals).trace.drop host.trace.length

/-- Nothing is ever taken off the trace. -/
theorem trace_prefix_receive (host : Host) (signal : Signal) :
    host.trace <+: (host.receive signal).trace := by
  cases signal with
  | logged record => exact List.prefix_append _ _
  | spanCreated name depth => exact List.prefix_append _ _
  | panicked thread payload =>
    show host.trace <+: (host.panic thread payload).trace
    unfold panic
    cases host.routing.receive thread with
    | heardBy name => exact List.prefix_refl _
    | absorbed =>
      show host.trace <+: (if thread = .main then host.log .panicAbsorbed else host).trace
      split
      · exact List.prefix_append _ _
      · exact List.prefix_refl _
  | _ => exact List.prefix_refl _

theorem trace_receiveAll (host : Host) (signals : List Signal) :
    (host.receiveAll signals).trace = host.trace ++ host.added signals := by
  have grows : host.trace <+: (host.receiveAll signals).trace := by
    induction signals generalizing host with
    | nil => exact List.prefix_refl _
    | cons signal rest inductionHypothesis =>
      exact (host.trace_prefix_receive signal).trans (inductionHypothesis (host.receive signal))
  exact (List.prefix_iff_eq_append.mp grows).symm

theorem added_nil (host : Host) : host.added [] = [] := List.drop_length

theorem added_append (host : Host) (first second : List Signal) :
    host.added (first ++ second) = host.added first ++ (host.receiveAll first).added second := by
  refine (List.append_right_inj host.trace).mp ?_
  rw [← trace_receiveAll, receiveAll_append, trace_receiveAll, trace_receiveAll,
    List.append_assoc]

/-- What a signal adds that appends known entries. -/
theorem added_of_trace {host : Host} {signal : Signal} {entries : List TraceEntry}
    (trace : (host.receive signal).trace = host.trace ++ entries) :
    host.added [signal] = entries := by
  show (host.receive signal).trace.drop host.trace.length = entries
  rw [trace, List.drop_left]

/-- A panic leaves the spans alone, and adds nothing to the trace or a record that it was
absorbed. -/
theorem receive_panicked (host : Host) (thread : Thread) (payload : Payload) :
    (host.receive (.panicked thread payload)).entered = host.entered ∧
      (host.added [.panicked thread payload] = [] ∨
        host.added [.panicked thread payload] =
          [.record .panicAbsorbed host.entered.reverse]) := by
  have quiet : ∀ heard, host.receive (.panicked thread payload) = { host with heard := heard } →
      (host.receive (.panicked thread payload)).entered = host.entered ∧
        host.added [.panicked thread payload] = [] := by
    intro heard same
    refine ⟨by rw [same], added_of_trace ?_⟩
    rw [same]
    exact (List.append_nil _).symm
  cases received : host.routing.receive thread with
  | heardBy name =>
    obtain ⟨entered, added⟩ := quiet (host.heard ++ [⟨name, thread, payload⟩])
      (by simp only [receive, panic, received])
    exact ⟨entered, .inl added⟩
  | absorbed =>
    by_cases main : thread = .main
    · have logged : host.receive (.panicked thread payload) = host.log .panicAbsorbed := by
        simp only [receive, panic, received, if_pos main]
      refine ⟨by rw [logged]; rfl, .inr (added_of_trace ?_)⟩
      rw [logged]
      rfl
    · obtain ⟨entered, added⟩ := quiet host.heard
        (by simp only [receive, panic, received, if_neg main])
      exact ⟨entered, .inl added⟩

end Host

/-! ### Interleaved entries -/

/-- Two lists that keep their own order in a third one, which has nothing else. -/
inductive Interleaved {Entry : Type} : List Entry → List Entry → List Entry → Prop where
  | nil : Interleaved [] [] []
  | left {first second both : List Entry} (entry : Entry)
      (rest : Interleaved first second both) : Interleaved (entry :: first) second (entry :: both)
  | right {first second both : List Entry} (entry : Entry)
      (rest : Interleaved first second both) : Interleaved first (entry :: second) (entry :: both)

namespace Interleaved

variable {Entry : Type} {first second both : List Entry}

theorem swap (interleaved : Interleaved first second both) : Interleaved second first both := by
  induction interleaved with
  | nil => exact .nil
  | left entry _ inductionHypothesis => exact .right entry inductionHypothesis
  | right entry _ inductionHypothesis => exact .left entry inductionHypothesis

theorem refl_left (entries : List Entry) : Interleaved entries [] entries := by
  induction entries with
  | nil => exact .nil
  | cons entry rest inductionHypothesis => exact .left entry inductionHypothesis

/-- What comes last comes last in the list that it belongs to. -/
theorem append_right (interleaved : Interleaved first second both) (more : List Entry) :
    Interleaved first (second ++ more) (both ++ more) := by
  induction interleaved with
  | nil => exact (refl_left more).swap
  | left entry _ inductionHypothesis => exact .left entry inductionHypothesis
  | right entry _ inductionHypothesis => exact .right entry inductionHypothesis

theorem append_left (interleaved : Interleaved first second both) (more : List Entry) :
    Interleaved (first ++ more) second (both ++ more) :=
  (interleaved.swap.append_right more).swap

end Interleaved

/-! ### Tellings -/

/-- A promise about the entries that a future adds to the trace: about those so far at each
suspension, and about all of them at the end, where the result is known. -/
structure Telling (Value : Type) where
  midway : List TraceEntry → Prop
  atEnd : Except Payload Value → List TraceEntry → Prop

namespace Telling

variable {Value : Type}

/-- The promise that something holds of the entries at all times. -/
def always (holds : List TraceEntry → Prop) : Telling Value := ⟨holds, fun _ => holds⟩

/-- The promise about something that is told part by part: all of it is told in the end if there is
a value, and a part of it at any other time. -/
def gradually (tells : Bool → List TraceEntry → Prop) : Telling Value :=
  ⟨tells false, fun result => tells result.isOk⟩

/-- The promise to finish within one poll and to tell just these entries. -/
def exactly (entries : List TraceEntry) : Telling Unit :=
  ⟨fun _ => False, fun result told => result = .ok () ∧ told = entries⟩

/-- What is left of a promise when some entries have been told. -/
def following (telling : Telling Value) (earlier : List TraceEntry) : Telling Value :=
  ⟨fun told => telling.midway (earlier ++ told),
    fun result told => telling.atEnd result (earlier ++ told)⟩

end Telling

namespace Future

variable {State Value Other Part : Type}

/-- Wherever a future is polled within the outer spans, with the outermost first, it keeps its
promise and leaves these spans entered. At the moment it stands in some more spans that it has
opened in this poll, with the innermost first, and it has told some entries. -/
def Upholds (outer : List String) (telling : Telling Value) :
    Future State Value → List String → List TraceEntry → Prop
  | .ready value, opened, told => opened = [] ∧ telling.atEnd (.ok value) told
  | .unwind payload, opened, told => opened = [] ∧ telling.atEnd (.error payload) told
  | .pending rest, opened, told =>
    opened = [] ∧ telling.midway told ∧ rest.Upholds outer telling [] told
  | .send signal rest, opened, told => ∀ host : Host, host.entered = opened ++ outer.reverse →
    ∃ next, (host.receive signal).entered = next ++ outer.reverse ∧
      rest.Upholds outer telling next (told ++ host.added [signal])
  | .read step, opened, told => ∀ state, (step state).Upholds outer telling opened told
  | .write _ rest, opened, told => rest.Upholds outer telling opened told

/-- Wherever a future begins, it keeps its promise from there on. -/
def Tells (outer : List String) (telling : Telling Value) (future : Future State Value) : Prop :=
  future.Upholds outer telling [] []

/-- A poll that ended in this way upheld a telling, and what is left of the future upholds it. -/
def Progress.Upholds (outer : List String) (telling : Telling Value) :
    Progress State Value → List TraceEntry → Prop
  | .ready value, told => telling.atEnd (.ok value) told
  | .unwound payload, told => telling.atEnd (.error payload) told
  | .pending rest, told => telling.midway told ∧ rest.Upholds outer telling [] told

variable {outer : List String} {telling : Telling Value} {opened : List String}
  {told : List TraceEntry}

/-- A poll within the outer spans ends within them, and what the future has told by then is as
promised. -/
theorem Upholds.poll {future : Future State Value}
    (upholds : future.Upholds outer telling opened told) (state : State) (host : Host)
    (entered : host.entered = opened ++ outer.reverse) :
    (host.receiveAll (future.poll state).signals).entered = outer.reverse ∧
      (future.poll state).progress.Upholds outer telling
        (told ++ host.added (future.poll state).signals) := by
  induction future generalizing state host opened told with
  | ready value =>
    obtain ⟨rfl, atEnd⟩ := upholds
    refine ⟨entered, ?_⟩
    rw [poll, host.added_nil, List.append_nil]
    exact atEnd
  | unwind payload =>
    obtain ⟨rfl, atEnd⟩ := upholds
    refine ⟨entered, ?_⟩
    rw [poll, host.added_nil, List.append_nil]
    exact atEnd
  | pending rest =>
    obtain ⟨rfl, both⟩ := upholds
    refine ⟨entered, ?_⟩
    rw [poll, host.added_nil, List.append_nil]
    exact both
  | send signal rest inductionHypothesis =>
    obtain ⟨next, stands, further⟩ := upholds host entered
    obtain ⟨left, progress⟩ := inductionHypothesis further state (host.receive signal) stands
    refine ⟨left, ?_⟩
    rw [List.append_assoc] at progress
    show (rest.poll state).progress.Upholds outer telling
      (told ++ host.added ([signal] ++ (rest.poll state).signals))
    rw [host.added_append]
    exact progress
  | read step inductionHypothesis =>
    exact inductionHypothesis state (upholds state) state host entered
  | write next rest inductionHypothesis => exact inductionHypothesis upholds next host entered

/-- What was told earlier does not matter to a future, only to the promise. -/
theorem Upholds.frame {future : Future State Value} (earlier : List TraceEntry)
    (upholds : future.Upholds outer (telling.following earlier) opened told) :
    future.Upholds outer telling opened (earlier ++ told) := by
  induction future generalizing opened told with
  | ready value => exact upholds
  | unwind payload => exact upholds
  | pending rest inductionHypothesis =>
    exact ⟨upholds.1, upholds.2.1, inductionHypothesis upholds.2.2⟩
  | send signal rest inductionHypothesis =>
    intro host entered
    obtain ⟨after, stands, rest⟩ := upholds host entered
    refine ⟨after, stands, ?_⟩
    rw [List.append_assoc]
    exact inductionHypothesis rest
  | read step inductionHypothesis => exact fun state => inductionHypothesis state (upholds state)
  | write state rest inductionHypothesis => exact inductionHypothesis upholds

theorem Tells.upholds {future : Future State Value}
    (tells : future.Tells outer (telling.following told)) :
    future.Upholds outer telling [] told := by
  have framed := Upholds.frame told tells
  rwa [List.append_nil] at framed

/-! ### Sequencing -/

theorem Upholds.bind {first : Telling Value} {telling : Telling Other} {future : Future State Value}
    {next : Value → Future State Other} (upholds : future.Upholds outer first opened told)
    (midway : ∀ told, first.midway told → telling.midway told)
    (failed : ∀ payload told, first.atEnd (.error payload) told →
      telling.atEnd (.error payload) told)
    (further : ∀ value told, first.atEnd (.ok value) told →
      (next value).Tells outer (telling.following told)) :
    (future.bind next).Upholds outer telling opened told := by
  induction future generalizing opened told with
  | ready value =>
    obtain ⟨rfl, atEnd⟩ := upholds
    exact (further value told atEnd).upholds
  | unwind payload =>
    obtain ⟨rfl, atEnd⟩ := upholds
    exact ⟨rfl, failed payload told atEnd⟩
  | pending rest inductionHypothesis =>
    obtain ⟨rfl, suspended, rest⟩ := upholds
    exact ⟨rfl, midway told suspended, inductionHypothesis rest⟩
  | send signal rest inductionHypothesis =>
    intro host entered
    obtain ⟨after, stands, rest⟩ := upholds host entered
    exact ⟨after, stands, inductionHypothesis rest⟩
  | read step inductionHypothesis => exact fun state => inductionHypothesis state (upholds state)
  | write state rest inductionHypothesis => exact inductionHypothesis upholds

/-- A sequence tells as promised if its first part promises what its second part needs. -/
theorem Tells.bind {first : Telling Value} {telling : Telling Other} {future : Future State Value}
    {next : Value → Future State Other} (tells : future.Tells outer first)
    (midway : ∀ told, first.midway told → telling.midway told)
    (failed : ∀ payload told, first.atEnd (.error payload) told →
      telling.atEnd (.error payload) told)
    (further : ∀ value told, first.atEnd (.ok value) told →
      (next value).Tells outer (telling.following told)) :
    (future.bind next).Tells outer telling :=
  Upholds.bind tells midway failed further

theorem Tells.bind_exactly {telling : Telling Other} {future : Future State Unit}
    {next : Unit → Future State Other} {entries : List TraceEntry}
    (tells : future.Tells outer (.exactly entries))
    (further : (next ()).Tells outer (telling.following entries)) :
    (future.bind next).Tells outer telling := by
  refine tells.bind (fun _ => False.elim) ?_ ?_
  · rintro payload told ⟨result, _⟩
    cases result
  · rintro value told ⟨_, rfl⟩
    exact further

/-- A first part that tells nothing leaves the whole promise to the second part. -/
theorem Tells.bind_silent {telling : Telling Other} {future : Future State Unit}
    {next : Unit → Future State Other} (tells : future.Tells outer (.exactly []))
    (further : (next ()).Tells outer telling) : (future.bind next).Tells outer telling :=
  tells.bind_exactly further

theorem tells_ready {value : Value} (atEnd : telling.atEnd (.ok value) []) :
    (Future.ready value : Future State Value).Tells outer telling := ⟨rfl, atEnd⟩

/-- The end of a future ends a promise of which everything was told before. -/
theorem tells_ofExcept_following {result : Except Payload Value}
    (atEnd : telling.atEnd result told) :
    (ofExcept result : Future State Value).Tells outer (telling.following told) := by
  have all : telling.atEnd result (told ++ []) := by rwa [List.append_nil]
  cases result with
  | ok value => exact ⟨rfl, all⟩
  | error payload => exact ⟨rfl, all⟩

theorem tells_ready_following {value : Value} (atEnd : telling.atEnd (.ok value) told) :
    (Future.ready value : Future State Value).Tells outer (telling.following told) :=
  tells_ofExcept_following atEnd

theorem tells_unwind {payload : Payload} (atEnd : telling.atEnd (.error payload) []) :
    (Future.unwind payload : Future State Value).Tells outer telling := ⟨rfl, atEnd⟩

theorem tells_modify {telling : Telling Unit} (change : State → State)
    (atEnd : telling.atEnd (.ok ()) []) : (modify change).Tells outer telling :=
  fun _ => ⟨rfl, atEnd⟩

/-- A telling can be replaced by one that promises less. -/
theorem Upholds.weaken {first : Telling Value} {future : Future State Value}
    (upholds : future.Upholds outer first opened told)
    (midway : ∀ told, first.midway told → telling.midway told)
    (atEnd : ∀ result told, first.atEnd result told → telling.atEnd result told) :
    future.Upholds outer telling opened told := by
  rw [← bind_ready future]
  exact upholds.bind midway (fun payload => atEnd (.error payload)) fun value told promised =>
    tells_ready_following (atEnd (.ok value) told promised)

theorem Tells.weaken {first : Telling Value} {future : Future State Value}
    (tells : future.Tells outer first)
    (midway : ∀ told, first.midway told → telling.midway told)
    (atEnd : ∀ result told, first.atEnd result told → telling.atEnd result told) :
    future.Tells outer telling :=
  Upholds.weaken tells midway atEnd

/-! ### Catching -/

theorem Upholds.attempt {telling : Telling (Except Payload Value)} {future : Future State Value}
    (upholds : future.Upholds outer
      ⟨telling.midway, fun result => telling.atEnd (.ok result)⟩ opened told) :
    future.attempt.Upholds outer telling opened told := by
  induction future generalizing opened told with
  | ready value => exact upholds
  | unwind payload => exact upholds
  | pending rest inductionHypothesis =>
    exact ⟨upholds.1, upholds.2.1, inductionHypothesis upholds.2.2⟩
  | send signal rest inductionHypothesis =>
    intro host entered
    obtain ⟨after, stands, rest⟩ := upholds host entered
    exact ⟨after, stands, inductionHypothesis rest⟩
  | read step inductionHypothesis => exact fun state => inductionHypothesis state (upholds state)
  | write state rest inductionHypothesis => exact inductionHypothesis upholds

/-- A future that is taken to its end within one poll has no suspensions left to promise for. -/
theorem Upholds.uninterrupted {first : Telling Value} {future : Future State Value}
    (upholds : future.Upholds outer first opened told) (atEnd : first.atEnd = telling.atEnd) :
    future.uninterrupted.Upholds outer telling opened told := by
  induction future generalizing opened told with
  | ready value => exact ⟨upholds.1, atEnd ▸ upholds.2⟩
  | unwind payload => exact ⟨upholds.1, atEnd ▸ upholds.2⟩
  | pending rest inductionHypothesis =>
    obtain ⟨rfl, _, rest⟩ := upholds
    exact inductionHypothesis rest
  | send signal rest inductionHypothesis =>
    intro host entered
    obtain ⟨after, stands, rest⟩ := upholds host entered
    exact ⟨after, stands, inductionHypothesis rest⟩
  | read step inductionHypothesis => exact fun state => inductionHypothesis state (upholds state)
  | write state rest inductionHypothesis => exact inductionHypothesis upholds

/-! ### Signals -/

/-- A signal that leaves the spans alone. -/
theorem tells_send {signal : Signal} {rest : Future State Value}
    (level : ∀ host : Host, (host.receive signal).entered = host.entered)
    (tells : ∀ host : Host, host.entered = outer.reverse →
      rest.Tells outer (telling.following (host.added [signal]))) :
    (Future.send signal rest).Tells outer telling :=
  fun host entered => ⟨[], (level host).trans entered, (tells host entered).upholds⟩

/-- A record is written within exactly the outer spans. -/
theorem tells_logged {record : LogRecord} {rest : Future State Value}
    (tells : rest.Tells outer (telling.following [.record record outer])) :
    (Future.send (.logged record) rest).Tells outer telling := by
  refine tells_send (fun _ => rfl) fun host entered => ?_
  have added : host.added [.logged record] = [.record record host.entered.reverse] :=
    Host.added_of_trace rfl
  rw [added, entered, List.reverse_reverse]
  exact tells

theorem tells_spanCreated {name : String} {depth : Nat} {rest : Future State Value}
    (tells : rest.Tells outer (telling.following [.span name depth])) :
    (Future.send (.spanCreated name depth) rest).Tells outer telling := by
  refine tells_send (fun _ => rfl) fun host _ => ?_
  have added : host.added [.spanCreated name depth] = [.span name depth] :=
    Host.added_of_trace rfl
  rw [added]
  exact tells

/-- A panic may be absorbed or not, depending on who holds guards. If it is, this is recorded within
exactly the outer spans. -/
theorem tells_panicked {thread : Thread} {payload : Payload} {rest : Future State Value}
    (heard : rest.Tells outer telling)
    (absorbed : rest.Tells outer (telling.following [.record .panicAbsorbed outer])) :
    (Future.send (.panicked thread payload) rest).Tells outer telling := by
  refine tells_send (fun host => (host.receive_panicked thread payload).1) fun host entered => ?_
  rcases (host.receive_panicked thread payload).2 with added | added
  · rw [added]
    exact heard
  · rw [added, entered, List.reverse_reverse]
    exact absorbed

theorem tells_guardInstalled {thread : Thread} {rest : Future State Value}
    (tells : rest.Tells outer telling) :
    (Future.send (.guardInstalled thread) rest).Tells outer telling := by
  refine tells_send (fun _ => rfl) fun host _ => ?_
  rw [Host.added_of_trace (List.append_nil _).symm]
  exact tells

theorem tells_guardReleased {thread : Thread} {unwinding : Bool} {rest : Future State Value}
    (tells : rest.Tells outer telling) :
    (Future.send (.guardReleased thread unwinding) rest).Tells outer telling := by
  refine tells_send (fun _ => rfl) fun host _ => ?_
  rw [Host.added_of_trace (List.append_nil _).symm]
  exact tells

/-! ### Spans -/

theorem upholds_spanLeft {rest : Future State Value} {name : String}
    (upholds : rest.Upholds outer telling [] told) :
    (Future.send .spanLeft rest).Upholds outer telling [name] told := by
  intro host entered
  refine ⟨[], ?_, ?_⟩
  · show host.entered.tail = _
    rw [entered]
    rfl
  · rw [Host.added_of_trace (List.append_nil _).symm, List.append_nil]
    exact upholds

theorem upholds_spanEntered {rest : Future State Value} {name : String}
    (upholds : rest.Upholds outer telling [name] told) :
    (Future.send (.spanEntered name) rest).Upholds outer telling [] told := by
  intro host entered
  refine ⟨[name], ?_, ?_⟩
  · show name :: host.entered = _
    rw [entered]
    rfl
  · rw [Host.added_of_trace (List.append_nil _).symm, List.append_nil]
    exact upholds

/-- Inside a span a future stands within the outer spans and that one. The span is left at the end
of each poll and entered again at the beginning of the next one. -/
theorem Upholds.withinSpan {future : Future State Value} (name : String)
    (upholds : future.Upholds (outer ++ [name]) telling opened told) :
    (future.withinSpan name).Upholds outer telling (opened ++ [name]) told := by
  induction future generalizing opened told with
  | ready value =>
    obtain ⟨rfl, atEnd⟩ := upholds
    exact upholds_spanLeft ⟨rfl, atEnd⟩
  | unwind payload =>
    obtain ⟨rfl, atEnd⟩ := upholds
    exact upholds_spanLeft ⟨rfl, atEnd⟩
  | pending rest inductionHypothesis =>
    obtain ⟨rfl, midway, rest⟩ := upholds
    exact upholds_spanLeft ⟨rfl, midway, upholds_spanEntered (inductionHypothesis rest)⟩
  | send signal rest inductionHypothesis =>
    intro host entered
    rw [List.append_assoc, List.singleton_append, ← List.reverse_concat] at entered
    obtain ⟨after, stands, rest⟩ := upholds host entered
    refine ⟨after ++ [name], ?_, inductionHypothesis rest⟩
    rw [stands, List.append_assoc, List.singleton_append, ← List.reverse_concat]
  | read step inductionHypothesis => exact fun state => inductionHypothesis state (upholds state)
  | write state rest inductionHypothesis => exact inductionHypothesis upholds

theorem Tells.instrument {future : Future State Value} (name : String)
    (tells : future.Tells (outer ++ [name]) telling) :
    (future.instrument name).Tells outer telling :=
  upholds_spanEntered (Upholds.withinSpan name tells)

/-! ### Parts of the state -/

theorem Upholds.onFirst {future : Future State Value}
    (upholds : future.Upholds outer telling opened told) :
    (future.onFirst : Future (State × Part) Value).Upholds outer telling opened told := by
  induction future generalizing opened told with
  | ready value => exact upholds
  | unwind payload => exact upholds
  | pending rest inductionHypothesis =>
    exact ⟨upholds.1, upholds.2.1, inductionHypothesis upholds.2.2⟩
  | send signal rest inductionHypothesis =>
    intro host entered
    obtain ⟨after, stands, rest⟩ := upholds host entered
    exact ⟨after, stands, inductionHypothesis rest⟩
  | read step inductionHypothesis =>
    exact fun both => inductionHypothesis both.1 (upholds both.1)
  | write state rest inductionHypothesis => exact fun _ => inductionHypothesis upholds

theorem Upholds.collect {telling : Telling (Except Payload Value × Part)}
    {future : Future (State × Part) Value} (own : Part)
    (upholds : future.Upholds outer
      ⟨telling.midway, fun result told => ∀ own, telling.atEnd (.ok (result, own)) told⟩
      opened told) :
    (future.collect own).Upholds outer telling opened told := by
  induction future generalizing own opened told with
  | ready value => exact ⟨upholds.1, upholds.2 own⟩
  | unwind payload => exact ⟨upholds.1, upholds.2 own⟩
  | pending rest inductionHypothesis =>
    exact ⟨upholds.1, upholds.2.1, inductionHypothesis own upholds.2.2⟩
  | send signal rest inductionHypothesis =>
    intro host entered
    obtain ⟨after, stands, rest⟩ := upholds host entered
    exact ⟨after, stands, inductionHypothesis own rest⟩
  | read step inductionHypothesis =>
    exact fun state => inductionHypothesis (state, own) own (upholds (state, own))
  | write state rest inductionHypothesis => exact inductionHypothesis state.2 upholds

/-! ### Futures that run together -/

section

variable {one two : List TraceEntry → Prop} {first second : List TraceEntry}

/-- What two futures tell between each other if each of them keeps its own promise. -/
def Mingled (one two : List TraceEntry → Prop) (told : List TraceEntry) : Prop :=
  ∃ first second, one first ∧ two second ∧ Interleaved first second told

/-- While the first future waits, or when it is finished, the second one keeps both promises. -/
theorem Upholds.mingle {future : Future State Value}
    (upholds : future.Upholds outer (.always two) opened second)
    (interleaved : Interleaved first second told) (kept : one first) :
    future.Upholds outer (.always (Mingled one two)) opened told := by
  induction future generalizing opened second told with
  | ready value => exact ⟨upholds.1, first, second, kept, upholds.2, interleaved⟩
  | unwind payload => exact ⟨upholds.1, first, second, kept, upholds.2, interleaved⟩
  | pending rest inductionHypothesis =>
    exact ⟨upholds.1, ⟨first, second, kept, upholds.2.1, interleaved⟩,
      inductionHypothesis upholds.2.2 interleaved⟩
  | send signal rest inductionHypothesis =>
    intro host entered
    obtain ⟨after, stands, rest⟩ := upholds host entered
    exact ⟨after, stands, inductionHypothesis rest (interleaved.append_right _)⟩
  | read step inductionHypothesis =>
    exact fun state => inductionHypothesis state (upholds state) interleaved
  | write state rest inductionHypothesis => exact inductionHypothesis upholds interleaved

/-- Within the poll of the second future both promises are kept, if what follows the poll does. -/
theorem Upholds.pollThen {future : Future State Value}
    {next : Future State Value → Future State Other} (upholds : future.Upholds outer (.always two) opened second)
    (interleaved : Interleaved first second told) (kept : one first)
    (further : ∀ (left : Future State Value) (second told : List TraceEntry),
      left.Upholds outer (.always two) [] second → two second → Interleaved first second told →
        (next left).Upholds outer (.always (Mingled one two)) [] told) :
    (future.pollThen next).Upholds outer (.always (Mingled one two)) opened told := by
  induction future generalizing opened second told with
  | ready value =>
    obtain ⟨rfl, atEnd⟩ := upholds
    exact further (.ready value) second told ⟨rfl, atEnd⟩ atEnd interleaved
  | unwind payload => exact ⟨upholds.1, first, second, kept, upholds.2, interleaved⟩
  | pending rest =>
    obtain ⟨rfl, midway, rest⟩ := upholds
    exact further _ second told rest midway interleaved
  | send signal rest inductionHypothesis =>
    intro host entered
    obtain ⟨after, stands, rest⟩ := upholds host entered
    exact ⟨after, stands, inductionHypothesis rest (interleaved.append_right _)⟩
  | read step inductionHypothesis =>
    exact fun state => inductionHypothesis state (upholds state) interleaved
  | write state rest inductionHypothesis => exact inductionHypothesis upholds interleaved

/-- Two futures that run together each keep their own promise. -/
theorem Upholds.both {future : Future State Value} {other : Future State Other}
    (upholds : future.Upholds outer (.always one) opened first)
    (otherUpholds : other.Upholds outer (.always two) [] second) (kept : two second)
    (interleaved : Interleaved first second told) :
    (future.both other).Upholds outer (.always (Mingled one two)) opened told := by
  induction future generalizing other opened first second told with
  | ready value =>
    obtain ⟨rfl, atEnd⟩ := upholds
    exact (otherUpholds.mingle interleaved atEnd).bind (fun _ => id) (fun _ _ => id)
      fun value told mingled => tells_ready_following mingled
  | unwind payload => exact ⟨upholds.1, first, second, upholds.2, kept, interleaved⟩
  | pending rest inductionHypothesis =>
    obtain ⟨rfl, midway, rest⟩ := upholds
    refine otherUpholds.pollThen interleaved midway ?_
    intro left second told leftUpholds kept interleaved
    exact ⟨rfl, ⟨first, second, midway, kept, interleaved⟩,
      inductionHypothesis rest leftUpholds kept interleaved⟩
  | send signal rest inductionHypothesis =>
    intro host entered
    obtain ⟨after, stands, rest⟩ := upholds host entered
    exact ⟨after, stands,
      inductionHypothesis rest otherUpholds kept (interleaved.append_left _)⟩
  | read step inductionHypothesis =>
    exact fun state => inductionHypothesis state (upholds state) otherUpholds kept interleaved
  | write state rest inductionHypothesis =>
    exact inductionHypothesis upholds otherUpholds kept interleaved

end

end Future

end TestTree
