/-
This file proves what every registrar looks like and when it can be closed.

A stack is empty, or it has a root without a name at the bottom and groups with names on top of it.
Every move keeps this for all registrars at once, so it holds after any moves at all, and also
when a body put another registrar on the desk before its group was closed. What follows is that
the number of groups with names, which is all that closing looks at, says how many groups
there are. A registrar that has lost all of its groups stays as it is.
-/

import TestTree.Proofs.Registration.Lexical
import TestTree.Proofs.Registration.Rooted
import TestTree.Proofs.Run.Stream

namespace TestTree

variable {Action : Type}

/-! ### Closing -/

namespace Registrar

/-- All groups on the stack have names, except for the one at the bottom. -/
theorem openGroups_of_shaped {stack : List (Group Action)} (shaped : Shaped stack) :
    (Registrar.mk stack).openGroups = stack.length - 1 := by
  induction stack with
  | nil => rfl
  | cons group rest inductionHypothesis =>
    obtain ⟨_, name, below⟩ := shaped
    have counted := inductionHypothesis below
    unfold openGroups at counted ⊢
    rw [List.countP_cons, counted, List.length_cons]
    cases rest with
    | nil =>
      have unnamed : group.isRoot = true := Option.isNone_iff_eq_none.mpr (name.mpr rfl)
      rw [unnamed]
      rfl
    | cons next others =>
      have named : group.isRoot = false :=
        Bool.eq_false_iff.mpr fun root => by cases name.mp (Option.isNone_iff_eq_none.mp root)
      rw [named]
      rfl

/-- The result of closing is determined by the number of groups on the stack. -/
theorem finish_of_shaped {registrar : Registrar Action} (shaped : Shaped registrar.stack) :
    registrar.finish =
      match registrar.stack with
      | [] => .error (.noCurrentGroup "finish")
      | [root] => .ok ⟨root⟩
      | _ :: _ :: others => .error (.unbalancedGroups (others.length + 1)) := by
  obtain ⟨stack⟩ := registrar
  have counted := openGroups_of_shaped shaped
  match stack, counted with
  | [], _ => rfl
  | [root], counted =>
    simp only [finish, counted, List.length_singleton, if_true]
  | group :: next :: others, counted =>
    simp only [finish, counted, List.length_cons, Nat.add_sub_cancel]
    exact if_neg (Nat.succ_ne_zero _)

/-- What is known of every registrar: its shape, and which stack belongs to each way of closing. -/
structure Regular (registrar : Registrar Action) : Prop where
  shaped : Shaped registrar.stack
  finish_eq_ok_iff : ∀ suite, registrar.finish = .ok suite ↔ registrar.stack = [suite.root]
  finish_eq_unbalanced_iff : ∀ left,
    registrar.finish = .error (.unbalancedGroups left) ↔
      1 ≤ left ∧ registrar.stack.length = left + 1
  finish_eq_noCurrentGroup_iff : ∀ call,
    registrar.finish = .error (.noCurrentGroup call) ↔ call = "finish" ∧ registrar.stack = []

theorem regular_of_shaped {registrar : Registrar Action} (shaped : Shaped registrar.stack) :
    registrar.Regular := by
  have closing := finish_of_shaped shaped
  obtain ⟨stack⟩ := registrar
  refine ⟨shaped, fun suite => ?_, fun left => ?_, fun call => ?_⟩ <;> rw [closing]
  · rcases stack with _ | ⟨root, _ | ⟨next, others⟩⟩
    · simp only [reduceCtorEq]
    · obtain ⟨only⟩ := suite
      simp only [Except.ok.injEq, Suite.mk.injEq, List.cons.injEq, and_true]
    · simp only [reduceCtorEq, List.cons.injEq, and_false]
  · rcases stack with _ | ⟨root, _ | ⟨next, others⟩⟩
    · simp only [Except.error.injEq, reduceCtorEq, false_iff]
      rintro ⟨_, length⟩
      cases length
    · simp only [reduceCtorEq, List.length_singleton, false_iff]
      omega
    · simp only [Except.error.injEq, RegistrationError.unbalancedGroups.injEq, List.length_cons]
      omega
  · rcases stack with _ | ⟨root, _ | ⟨next, others⟩⟩
    · simp only [Except.error.injEq, RegistrationError.noCurrentGroup.injEq, and_true]
      exact eq_comm
    · simp only [reduceCtorEq, and_false]
    · simp only [Except.error.injEq, reduceCtorEq, and_false]

end Registrar

/-! ### Moves keep the shape -/

namespace Move

open Registration Registrar

/-- A suite that was closed well has one group without a name. -/
def Closes (entry : Entry Action) : Prop :=
  ∀ suite, entry.result = .closed (.ok suite) → suite.root.outline.Rooted

/-- All registrars have the right shape, and so have all suites that they were closed to. -/
structure Orderly (desk : Desk (Shelf Action) Action) : Prop where
  sound : Sound desk
  closes : ∀ entry ∈ desk.extra.entries, Closes entry

/-- A move writes at most one entry, and only finishing writes the entry of a suite. -/
theorem entries_apply (desk : Desk (Shelf Action) Action) (move : Move Action) :
    (apply desk move).extra.entries = desk.extra.entries ++
      match move with
      | .finished slot => [⟨"finish", some slot, .closed (desk.extra.get slot).finish⟩]
      | .noted call name (.ok ()) => [⟨call, name, .done⟩]
      | .noted call name (.error failure) => [⟨call, name, .failed failure⟩]
      | _ => [] := by
  obtain ⟨⟨stack⟩, journal, shelf⟩ := desk
  have unchanged : shelf.entries = shelf.entries ++ [] := (List.append_nil _).symm
  cases move with
  | opened name =>
    rw [apply, run, runAt_openGroup]
    cases stack <;> exact unchanged
  | closed =>
    rw [apply, run, runAt_closeGroup]
    rcases stack with _ | ⟨child, _ | ⟨parent, others⟩⟩ <;> exact unchanged
  | it name action =>
    rw [apply, run, runAt_it, runAt_updateGroup]
    cases stack <;> exact unchanged
  | hook slot action =>
    rw [apply, run, runAt_setHook]
    cases stack <;> exact unchanged
  | taken slot => exact unchanged
  | swapped slot => exact unchanged
  | finished slot => rfl
  | noted call name result => cases result <;> rfl

theorem orderly_apply {desk : Desk (Shelf Action) Action} (orderly : Orderly desk)
    (move : Move Action) : Orderly (apply desk move) := by
  refine ⟨keepsSound_run move desk orderly.sound, fun entry member => ?_⟩
  rw [entries_apply, List.mem_append] at member
  rcases member with member | member
  · exact orderly.closes entry member
  · intro suite closed
    cases move with
    | finished slot =>
      obtain rfl := List.mem_singleton.mp member
      exact rooted_of_finish (shaped_get orderly.sound slot) (StatementResult.closed.inj closed)
    | noted call name result =>
      cases result with
      | ok _ =>
        obtain rfl := List.mem_singleton.mp member
        cases closed
      | error failure =>
        obtain rfl := List.mem_singleton.mp member
        cases closed
    | _ => exact absurd member List.not_mem_nil

theorem orderly_replay {desk : Desk (Shelf Action) Action} (orderly : Orderly desk)
    (moves : List (Move Action)) : Orderly (replay desk moves) := by
  induction moves generalizing desk with
  | nil => exact orderly
  | cons move rest inductionHypothesis => exact inductionHypothesis (orderly_apply orderly move)

end Move

/-! ### Headers -/

/-- The depth and the name of a group that is announced. -/
def Event.started? : Event → Option (Nat × Option String)
  | .groupStart name depth => some (depth, some name)
  | _ => none

/-- The depths and the names of groups. -/
def Group.headers (groups : List (Nat × Group Action)) : List (Nat × Option String) :=
  groups.map fun entry => (entry.1, entry.2.name)

namespace ReportNode

theorem started?_outcomeEvents (depth : Nat) (outcomes : List (String × Outcome)) :
    (outcomeEvents depth outcomes).filterMap Event.started? = [] :=
  List.filterMap_eq_nil_iff.mpr fun event member => by
    obtain ⟨entry, _, rfl⟩ := List.mem_map.mp member
    rfl

mutual

/-- If a group and all groups below it have names, each of them is announced once. -/
theorem started?_events (depth : Nat) : (group : Group Action) → (report : ReportNode) →
    report.outline = group.outline → group.outline.Named →
      (report.events depth).filterMap Event.started? = Group.headers (group.walk depth)
  | ⟨_, tests, groups, hooks⟩, ⟨name, outcomes, children, passed⟩, same, named => by
    rw [Group.outline] at same named
    rw [outline, Outline.mk.injEq] at same
    obtain ⟨rfl, _, below⟩ := same
    cases named with
    | node name _ _ namedBelow =>
      rw [events_mk, List.filterMap_append, List.filterMap_append, started?_outcomeEvents,
        List.append_nil, started?_flatMap_events (depth + 1) groups children below namedBelow,
        Group.walk]
      rfl

theorem started?_flatMap_events (depth : Nat) : (groups : List (Group Action)) →
    (reports : List ReportNode) → outlines reports = Group.outlines groups →
      (∀ child ∈ Group.outlines groups, child.Named) →
        (reports.flatMap (events depth)).filterMap Event.started? =
          Group.headers (Group.walkAll depth groups)
  | [], [], _, _ => rfl
  | group :: groups, report :: reports, same, named => by
    rw [outlines, Group.outlines, List.cons.injEq] at same
    rw [Group.outlines] at named
    obtain ⟨own, others⟩ := List.forall_mem_cons.mp named
    rw [List.flatMap_cons, List.filterMap_append, started?_events depth group report same.1 own,
      started?_flatMap_events depth groups reports same.2 others, Group.walkAll]
    exact List.map_append.symm

end

end ReportNode

/-- In a run of a suite whose root is the only group without a name, exactly the other groups are
announced. -/
theorem Runner.started?_stream {State Kept Error : Type} {runner : Runner State Kept Error}
    {state : State} {report : Report Error}
    (returned : (runner.run.complete state).result = .ok report)
    (rooted : runner.suite.root.outline.Rooted) :
    (runner.stream state).filterMap Event.started? =
      Group.headers (runner.suite.root.walk 0).tail := by
  obtain ⟨stream, outline, _⟩ := stream_eq_events returned
  rw [stream]
  generalize runner.suite.root = group at rooted outline
  generalize report.root = node at outline
  obtain ⟨_, tests, groups, hooks⟩ := group
  obtain ⟨name, outcomes, children, passed⟩ := node
  rw [Group.outline] at rooted outline
  rw [ReportNode.outline, Outline.mk.injEq] at outline
  obtain ⟨rfl, _, below⟩ := outline
  obtain ⟨unnamed, named⟩ := rooted
  obtain rfl : name = none := unnamed
  rw [ReportNode.events_mk, List.filterMap_append, List.filterMap_append,
    ReportNode.started?_outcomeEvents, List.append_nil,
    ReportNode.started?_flatMap_events 1 groups children below named, Group.walk]
  rfl

/-! ### Registrars without groups -/

namespace Registration

/-- A registration leaves a registrar without groups as it is. -/
def KeepsEmpty {Value : Type} (registration : Registration (Shelf Action) Action Value) : Prop :=
  ∀ desk, desk.registrar.stack = [] → (registration.runAt desk).2.registrar = desk.registrar

theorem keepsEmpty_bind {Value Other : Type}
    {registration : Registration (Shelf Action) Action Value}
    {next : Value → Registration (Shelf Action) Action Other} (first : KeepsEmpty registration)
    (second : ∀ value, KeepsEmpty (next value)) : KeepsEmpty (registration >>= next) := by
  intro desk empty
  have between := first desk empty
  rw [runAt_bind, andThen]
  cases (registration.runAt desk).1 with
  | error failure => exact between
  | ok value =>
    have stillEmpty : (registration.runAt desk).2.registrar.stack = [] :=
      (congrArg Registrar.stack between).trans empty
    exact (second value _ stillEmpty).trans between

theorem keepsEmpty_accounted {call : String} {name : Option String}
    {registration : Registration (Shelf Action) Action Unit} (keeps : KeepsEmpty registration) :
    KeepsEmpty (accounted call name registration) :=
  fun desk empty => keeps desk empty

/-- Without a current group the body of a group does not run, whatever it would do. -/
theorem describe_of_empty {Extra : Type} {desk : Desk Extra Action}
    (empty : desk.registrar.stack = []) (name : String) (body : Registration Extra Action Unit) :
    (describe name body).runAt desk = (.error (.noCurrentGroup "describe"), desk) := by
  rw [runAt_describe, empty]

theorem it_of_empty {Extra : Type} {desk : Desk Extra Action} (empty : desk.registrar.stack = [])
    (name : String) (action : Action) :
    (it name action).runAt desk = (.error (.noCurrentGroup "it"),
      { desk with journal := desk.journal ++ [.registering name] }) := by
  rw [runAt_it, runAt_updateGroup]
  simp only [empty]

theorem setHook_of_empty {Extra : Type} {desk : Desk Extra Action}
    (empty : desk.registrar.stack = []) (slot : HookSlot) (hook : Action) :
    (setHook slot hook).runAt desk = (.error (.noCurrentGroup (hookCall slot)), desk) := by
  rw [runAt_setHook, empty]

theorem keepsEmpty_describe (name : String) (body : Registration (Shelf Action) Action Unit) :
    KeepsEmpty (describe name body) := by
  intro desk empty
  rw [describe_of_empty empty]

theorem keepsEmpty_it (name : String) (action : Action) : KeepsEmpty (it name action) := by
  intro desk empty
  rw [it_of_empty empty]

theorem keepsEmpty_setHook (slot : HookSlot) (hook : Action) : KeepsEmpty (setHook slot hook) := by
  intro desk empty
  rw [setHook_of_empty empty]

theorem keepsEmpty_nested (stem : String) {body : Registration (Shelf Action) Action Unit}
    (keeps : KeepsEmpty body) (levels number : Nat) :
    KeepsEmpty (nested stem body levels number) := by
  cases levels with
  | zero => exact keeps
  | succ levels => exact keepsEmpty_describe _ _

theorem keepsEmpty_repeated (stem : String) (action : Action) (count number : Nat) :
    KeepsEmpty (repeated stem action count number) := by
  induction count generalizing number with
  | zero => exact fun _ _ => rfl
  | succ count inductionHypothesis =>
    exact keepsEmpty_bind (keepsEmpty_it _ action) fun _ => inductionHypothesis (number + 1)

mutual

/-- A statement that does not move registrars leaves one without groups as it is. -/
theorem keepsEmpty_run : (statement : Statement Action) → statement.isLexical = true →
    KeepsEmpty statement.run
  | .describe name body, _ => by
    rw [Statement.run]
    exact keepsEmpty_accounted (keepsEmpty_describe name (Statement.runAll body))
  | .deep levels stem body, lexical => by
    rw [Statement.run]
    rw [Statement.isLexical] at lexical
    exact keepsEmpty_accounted (keepsEmpty_nested stem (keepsEmpty_runAll body lexical) levels 0)
  | .it name action, _ => by
    rw [Statement.run]
    exact keepsEmpty_accounted (keepsEmpty_it name action)
  | .many count stem action, _ => by
    rw [Statement.run]
    exact keepsEmpty_accounted (keepsEmpty_repeated stem action count 0)
  | .hook slot action, _ => by
    rw [Statement.run]
    exact keepsEmpty_accounted (keepsEmpty_setHook slot action)
  | .fail failure, _ => by
    rw [Statement.run]
    exact keepsEmpty_accounted fun _ _ => rfl
  | .catching statement, lexical => by
    rw [Statement.run]
    rw [Statement.isLexical] at lexical
    exact keepsEmpty_bind (fun desk empty => keepsEmpty_run statement lexical desk empty)
      fun _ _ _ => rfl

theorem keepsEmpty_runAll : (body : List (Statement Action)) →
    Statement.areLexical body = true → KeepsEmpty (Statement.runAll body)
  | [], _ => by
    rw [Statement.runAll]
    exact fun _ _ => rfl
  | statement :: rest, lexical => by
    rw [Statement.runAll]
    rw [Statement.areLexical, Bool.and_eq_true] at lexical
    exact keepsEmpty_bind (keepsEmpty_run statement lexical.1) fun _ =>
      keepsEmpty_runAll rest lexical.2

end

/-- Every call on the registrar fails and names itself, and so does the end of a call that defined a
group before. The registrar stays as it is, also under bodies that do not mind the errors. -/
structure Stuck (desk : Desk (Shelf Action) Action) : Prop where
  describe : ∀ name body,
    (Registration.describe name body).runAt desk = (.error (.noCurrentGroup "describe"), desk)
  closeGroup : Registration.closeGroup.runAt desk = (.error (.noCurrentGroup "describe"), desk)
  it : ∀ name action, (Registration.it name action).runAt desk =
    (.error (.noCurrentGroup "it"), { desk with journal := desk.journal ++ [.registering name] })
  setHook : ∀ slot hook,
    (Registration.setHook slot hook).runAt desk = (.error (.noCurrentGroup (hookCall slot)), desk)
  finish : desk.registrar.finish = .error (.noCurrentGroup "finish")
  runAll : ∀ body, Statement.areLexical body = true →
    ((Statement.runAll body).runAt desk).2.registrar = desk.registrar

theorem stuck_of_empty {desk : Desk (Shelf Action) Action} (empty : desk.registrar.stack = []) :
    Stuck desk where
  describe := describe_of_empty empty
  closeGroup := by rw [runAt_closeGroup, empty]
  it := it_of_empty empty
  setHook := setHook_of_empty empty
  finish := by rw [Registrar.finish, empty]
  runAll body lexical := keepsEmpty_runAll body lexical desk empty

end Registration

/-! ### Everything that can be reached -/

namespace Move

open Registration Registrar

theorem orderly_start : Orderly (start : Desk (Shelf Action) Action) where
  sound := sound_begin
  closes _ member := absurd member List.not_mem_nil

/-- What is known of a desk that can be reached. -/
structure Reached (desk : Desk (Shelf Action) Action) : Prop where
  current : desk.registrar.Regular
  aside : ∀ entry ∈ desk.extra.slots, entry.2.Regular
  /-- In every suite that was closed well, the root is the only group without a name. -/
  closed : ∀ entry ∈ desk.extra.entries, Closes entry
  /-- The same holds of the suites that the registrars could be closed to now. -/
  closing : ∀ registrar, registrar = desk.registrar ∨ (∃ slot, registrar = desk.extra.get slot) →
    ∀ suite, registrar.finish = .ok suite → suite.root.outline.Rooted
  /-- A registrar that has lost all of its groups stays as it is. -/
  stuck : desk.registrar.stack = [] → Stuck desk

theorem reached_of_orderly {desk : Desk (Shelf Action) Action} (orderly : Orderly desk) :
    Reached desk where
  current := regular_of_shaped orderly.sound.1
  aside entry member := regular_of_shaped (orderly.sound.2 entry member)
  closed := orderly.closes
  closing registrar known suite finished := by
    have shaped : Shaped registrar.stack := by
      rcases known with rfl | ⟨slot, rfl⟩
      · exact orderly.sound.1
      · exact shaped_get orderly.sound slot
    exact rooted_of_finish shaped finished
  stuck := stuck_of_empty

/-- After any moves every registrar has a root at the bottom and groups with names above it, and
closes accordingly. Running a body is replaying its moves, from any desk. In a suite that comes from
a registrar exactly the groups other than the root are announced when it runs. -/
theorem registrars_keep_shape :
    (∀ moves : List (Move Action), Reached (replay start moves)) ∧
      (∀ (body : List (Statement Action)) (desk : Desk (Shelf Action) Action),
        replay desk (Statement.movesAll body desk) = ((Statement.runAll body).runAt desk).2) ∧
      ∀ {State Kept Error : Type} (runner : Runner State Kept Error) (state : State)
        (report : Report Error), (runner.run.complete state).result = .ok report →
          runner.suite.root.outline.Rooted →
            (runner.stream state).filterMap Event.started? =
              Group.headers (runner.suite.root.walk 0).tail :=
  ⟨fun moves => reached_of_orderly (orderly_replay orderly_start moves), Statement.traces_runAll,
    fun _ _ _ returned rooted => Runner.started?_stream returned rooted⟩

/-- The body of a group exchanges the registrar, so the group that is closed is the root of another
one, and that one is left without groups. -/
def crossed : List (Statement Nat) :=
  [.catching (.describe "outer" [.swap "other", .it "inside" 1]), .finish "other"]

/-- The crossed body leaves a current registrar without groups. The one in the slot had a group that
was not closed. -/
theorem registrars_keep_shape_crossed :
    Reached (replay start (Statement.movesAll crossed start)) ∧
      Stuck (replay start (Statement.movesAll crossed start)) ∧
      (replay start (Statement.movesAll crossed start)).extra.entries.getLast? =
        some ⟨"finish", some "other", .closed (.error (.unbalancedGroups 1))⟩ := by
  obtain ⟨reached, _, _⟩ := @registrars_keep_shape Nat
  have shape := reached (Statement.movesAll crossed start)
  exact ⟨shape, shape.stuck rfl, rfl⟩

end Move

end TestTree
