/-
This file proves that a registration builds the tree that its body spells out.

What a body registers is read off its statements alone: tests and groups in the order in which
they stand, the last hook for each slot, nothing after the first failure that is not caught. A
group inside a body is read in the same way and starts empty, so neither its hooks nor those around
it can meet. The registrar works on a stack instead, where the body of a group is free to do
anything to the groups below. The invariant says that it does not: whatever a body returns, it has
added what it spells out to the group on top and has left the rest of the stack alone.

Statements that move registrars between the desk and slots are left out here. Under them the stack
a body finds need not be the stack it leaves.
-/

import TestTree.Proofs.Registration.Desk

namespace TestTree

variable {Action : Type}

/-! ### What a body adds to a group -/

/-- What a body adds to the group it runs in, each kind in the order of the statements. -/
structure Contents (Action : Type) where
  tests : List (Test Action)
  children : List (Group Action)
  hooks : List (HookSlot × Action)

namespace Contents

/-- Nothing is added. -/
def nothing : Contents Action := ⟨[], [], []⟩

/-- A test is added. -/
def test (name : String) (action : Action) : Contents Action := ⟨[⟨name, action⟩], [], []⟩

/-- A group is added. -/
def child (group : Group Action) : Contents Action := ⟨[], [group], []⟩

/-- A hook is set. -/
def hook (slot : HookSlot) (action : Action) : Contents Action := ⟨[], [], [(slot, action)]⟩

/-- What two parts of a body add, one after the other. -/
def append (first second : Contents Action) : Contents Action :=
  ⟨first.tests ++ second.tests, first.children ++ second.children, first.hooks ++ second.hooks⟩

/-- The last hook that was set for a slot. -/
def lastHook? (contents : Contents Action) (slot : HookSlot) : Option Action :=
  contents.hooks.reverse.lookup slot

/-- A group with the contents added: tests and children behind those it has, and in each slot the
last hook that was set for it, or the one it held if none was set. -/
def addTo (contents : Contents Action) (group : Group Action) : Group Action where
  name := group.name
  tests := group.tests ++ contents.tests
  children := group.children ++ contents.children
  hooks :=
    { beforeEach := (contents.lastHook? .beforeEach).or group.hooks.beforeEach
      afterEach := (contents.lastHook? .afterEach).or group.hooks.afterEach }

/-- A group with nothing but the contents. -/
def named (name : String) (contents : Contents Action) : Group Action :=
  contents.addTo (.named name)

/-- Groups inside one another, numbered from the outside, with the contents in the last. -/
def nested (stem : String) (contents : Contents Action) : (levels number : Nat) → Contents Action
  | 0, _ => contents
  | levels + 1, number =>
    child ((nested stem contents levels (number + 1)).named (stem ++ toString number))

/-- Tests with one action, numbered in order. -/
def repeated (stem : String) (action : Action) : (count number : Nat) → Contents Action
  | 0, _ => nothing
  | count + 1, number =>
    (test (stem ++ toString number) action).append (repeated stem action count (number + 1))

theorem lastHook?_append (first second : Contents Action) (slot : HookSlot) :
    (first.append second).lastHook? slot = (second.lastHook? slot).or (first.lastHook? slot) := by
  rw [lastHook?, append, List.reverse_append, List.lookup_append]
  rfl

theorem addTo_nothing (group : Group Action) : nothing.addTo group = group := by
  obtain ⟨name, tests, children, hooks⟩ := group
  simp only [addTo, nothing, lastHook?, List.append_nil, List.reverse_nil, List.lookup_nil,
    Option.none_or]

theorem addTo_test (group : Group Action) (name : String) (action : Action) :
    (test name action).addTo group = group.addTest ⟨name, action⟩ := by
  obtain ⟨_, tests, children, hooks⟩ := group
  simp only [addTo, test, lastHook?, Group.addTest, List.append_nil, List.reverse_nil,
    List.lookup_nil, Option.none_or]

theorem addTo_child (group below : Group Action) :
    (child below).addTo group = group.addChild below := by
  obtain ⟨name, tests, children, hooks⟩ := group
  simp only [addTo, child, lastHook?, Group.addChild, List.append_nil, List.reverse_nil,
    List.lookup_nil, Option.none_or]

theorem addTo_hook (group : Group Action) (slot : HookSlot) (action : Action) :
    (hook slot action).addTo group = group.setHook slot action := by
  obtain ⟨name, tests, children, hooks⟩ := group
  simp only [addTo, hook, Group.setHook, List.append_nil]
  cases slot <;> rfl

/-- Adding two parts at once is adding one after the other. -/
theorem addTo_append (first second : Contents Action) (group : Group Action) :
    (first.append second).addTo group = second.addTo (first.addTo group) := by
  simp only [addTo, lastHook?_append, Option.or_assoc]
  simp only [append, List.append_assoc]

end Contents

/-! ### Reading a body -/

mutual

/-- A statement works on the current group and on groups inside it, not on other registrars. -/
def Statement.isLexical : Statement Action → Bool
  | .describe _ body | .deep _ _ body => Statement.areLexical body
  | .it .. | .many .. | .hook .. | .fail _ => true
  | .take _ | .swap _ | .finish _ => false
  | .catching statement => statement.isLexical

/-- Every statement of a body works on the current group and on groups inside it. -/
def Statement.areLexical : List (Statement Action) → Bool
  | [] => true
  | statement :: rest => statement.isLexical && Statement.areLexical rest

end

mutual

/-- The error of a statement: its own, or the first in its body that is not caught there. -/
def Statement.failure? : Statement Action → Option RegistrationError
  | .describe _ body | .deep _ _ body => Statement.firstFailure? body
  | .fail failure => some failure
  | .it .. | .many .. | .hook .. | .take _ | .swap _ | .finish _ | .catching _ => none

/-- The first error in a body that is not caught. -/
def Statement.firstFailure? : List (Statement Action) → Option RegistrationError
  | [] => none
  | statement :: rest => statement.failure?.or (Statement.firstFailure? rest)

end

mutual

/-- What a statement adds to the group it stands in. A group that is defined is added with what
its body adds, however the body ends. -/
def Statement.contents : Statement Action → Contents Action
  | .describe name body => .child ((Statement.contentsAll body).named name)
  | .deep levels stem body => (Statement.contentsAll body).nested stem levels 0
  | .it name action => .test name action
  | .many count stem action => .repeated stem action count 0
  | .hook slot action => .hook slot action
  | .fail _ | .take _ | .swap _ | .finish _ => .nothing
  | .catching statement => statement.contents

/-- What a body adds to the group it stands in. The statement that fails is the last one that
adds anything. -/
def Statement.contentsAll : List (Statement Action) → Contents Action
  | [] => .nothing
  | statement :: rest =>
    match statement.failure? with
    | some _ => statement.contents
    | none => statement.contents.append (Statement.contentsAll rest)

end

/-! ### Running a body -/

namespace Registration

variable {Extra : Type}

/-- The result of a body, as the failure that ended it. -/
def ended : Option RegistrationError → Except RegistrationError Unit
  | none => .ok ()
  | some failure => .error failure

/-- Wherever there is a current group, the registration ends as said and adds the contents to that
group, and the groups below it stay as they are. -/
def Builds (registration : Registration Extra Action Unit) (failure? : Option RegistrationError)
    (contents : Contents Action) : Prop :=
  ∀ (desk : Desk Extra Action) (group : Group Action) (below : List (Group Action)),
    desk.registrar.stack = group :: below →
      (registration.runAt desk).1 = ended failure? ∧
        (registration.runAt desk).2.registrar.stack = contents.addTo group :: below

theorem builds_pure : Builds (pure () : Registration Extra Action Unit) none .nothing := by
  intro desk group below stack
  rw [Contents.addTo_nothing]
  exact ⟨rfl, stack⟩

/-- A failure ends a body, so what follows adds nothing. -/
theorem builds_bind_failed {first : Registration Extra Action Unit}
    (next : Unit → Registration Extra Action Unit) {failure : RegistrationError}
    {contents : Contents Action} (builds : Builds first (some failure) contents) :
    Builds (first >>= next) (some failure) contents := by
  intro desk group below stack
  obtain ⟨failed, left⟩ := builds desk group below stack
  rw [runAt_bind, andThen, failed]
  exact ⟨rfl, left⟩

/-- What follows a part that returns finds the group as that part left it. -/
theorem builds_bind {first : Registration Extra Action Unit}
    {next : Unit → Registration Extra Action Unit} {failure? : Option RegistrationError}
    {before after : Contents Action} (builds : Builds first none before)
    (continues : Builds (next ()) failure? after) :
    Builds (first >>= next) failure? (before.append after) := by
  intro desk group below stack
  obtain ⟨returned, left⟩ := builds desk group below stack
  rw [runAt_bind, andThen, returned, Contents.addTo_append]
  exact continues _ _ _ left

theorem builds_resume (failure : RegistrationError) :
    Builds (resume (.error failure) : Registration Extra Action Unit) (some failure)
      .nothing := by
  intro desk group below stack
  rw [Contents.addTo_nothing]
  exact ⟨rfl, stack⟩

/-- A body that is observed adds the same and does not fail. -/
theorem builds_caught {registration : Registration Extra Action Unit}
    {failure? : Option RegistrationError} {contents : Contents Action}
    (builds : Builds registration failure? contents) :
    Builds (do let _ ← observe registration) none contents := by
  intro desk group below stack
  exact ⟨rfl, (builds desk group below stack).2⟩

theorem builds_accounted (call : String) (name : Option String)
    {registration : Registration (Shelf Action) Action Unit} {failure? : Option RegistrationError}
    {contents : Contents Action} (builds : Builds registration failure? contents) :
    Builds (accounted call name registration) failure? contents :=
  fun desk group below stack => builds desk group below stack

/-- A group starts empty and becomes a child of the group it is defined in, with the result of its
body. -/
theorem builds_describe (name : String) {body : Registration Extra Action Unit}
    {failure? : Option RegistrationError} {contents : Contents Action}
    (builds : Builds body failure? contents) :
    Builds (describe name body) failure? (.child (contents.named name)) := by
  intro desk group below stack
  obtain ⟨result, left⟩ := builds { desk with
    registrar := ⟨.named name :: group :: below⟩
    journal := desk.journal ++ [.describing name (below.length + 1)] } (.named name)
    (group :: below) rfl
  rw [runAt_describe, stack]
  simp only
  rw [left, result, Contents.addTo_child]
  exact ⟨rfl, rfl⟩

theorem builds_it (name : String) (action : Action) :
    Builds (it name action : Registration Extra Action Unit) none (.test name action) := by
  intro desk group below stack
  rw [runAt_it, runAt_updateGroup]
  simp only [stack]
  rw [Contents.addTo_test]
  exact ⟨rfl, rfl⟩

theorem builds_setHook (slot : HookSlot) (hook : Action) :
    Builds (setHook slot hook : Registration Extra Action Unit) none (.hook slot hook) := by
  intro desk group below stack
  rw [runAt_setHook]
  simp only [stack]
  rw [Contents.addTo_hook]
  exact ⟨rfl, rfl⟩

theorem builds_repeated (stem : String) (action : Action) (count number : Nat) :
    Builds (repeated stem action count number) none (.repeated stem action count number) := by
  induction count generalizing number with
  | zero => exact builds_pure
  | succ count inductionHypothesis =>
    exact builds_bind (builds_it (stem ++ toString number) action)
      (inductionHypothesis (number + 1))

theorem builds_nested (stem : String) {body : Registration (Shelf Action) Action Unit}
    {failure? : Option RegistrationError} {contents : Contents Action}
    (builds : Builds body failure? contents) (levels number : Nat) :
    Builds (nested stem body levels number) failure? (contents.nested stem levels number) := by
  induction levels generalizing number with
  | zero => exact builds
  | succ levels inductionHypothesis =>
    exact builds_describe (stem ++ toString number) (inductionHypothesis (number + 1))

end Registration

namespace Statement

open Registration

mutual

/-- Running a statement adds what the statement spells out. -/
theorem builds_run : ∀ statement : Statement Action, statement.isLexical = true →
    Builds statement.run statement.failure? statement.contents
  | .describe name body, lexical => by
    rw [isLexical] at lexical
    rw [run, failure?, contents]
    exact builds_accounted _ _ (builds_describe name (builds_runAll body lexical))
  | .deep levels stem body, lexical => by
    rw [isLexical] at lexical
    rw [run, failure?, contents]
    exact builds_accounted _ _ (builds_nested stem (builds_runAll body lexical) levels 0)
  | .it name action, _ => by
    rw [run, failure?, contents]
    exact builds_accounted _ _ (builds_it name action)
  | .many count stem action, _ => by
    rw [run, failure?, contents]
    exact builds_accounted _ _ (builds_repeated stem action count 0)
  | .hook slot action, _ => by
    rw [run, failure?, contents]
    exact builds_accounted _ _ (builds_setHook slot action)
  | .fail failure, _ => by
    rw [run, failure?, contents]
    exact builds_accounted _ _ (builds_resume failure)
  | .take _, lexical | .swap _, lexical | .finish _, lexical => by
    rw [isLexical] at lexical
    cases lexical
  | .catching statement, lexical => by
    rw [isLexical] at lexical
    rw [run, failure?, contents]
    exact builds_caught (builds_run statement lexical)

/-- Running a body adds what its statements spell out, up to the one that fails. -/
theorem builds_runAll : ∀ body : List (Statement Action), areLexical body = true →
    Builds (runAll body) (firstFailure? body) (contentsAll body)
  | [], _ => by
    rw [runAll, firstFailure?, contentsAll]
    exact builds_pure
  | statement :: rest, lexical => by
    rw [areLexical, Bool.and_eq_true] at lexical
    have first := builds_run statement lexical.1
    rw [runAll, firstFailure?, contentsAll]
    -- Whether the rest is run is decided by the failure of the statement, on both sides.
    cases failed : statement.failure? with
    | some failure =>
      rw [failed] at first
      exact builds_bind_failed _ first
    | none =>
      rw [failed] at first
      exact builds_bind first (builds_runAll rest lexical.2)

end

/-! ### The suite of a body -/

/-- The tree that a body spells out: what it adds to an empty root. -/
def tree (body : List (Statement Action)) : Group Action :=
  (contentsAll body).addTo .root

/-- A session closes well unless its body failed, since what a body adds leaves the root without
a name. -/
theorem session_outcome (body : List (Statement Action)) (lexical : areLexical body = true) :
    (session body).outcome =
      match firstFailure? body with
      | none => .ok ⟨tree body⟩
      | some failure => .error failure := by
  have builds := builds_runAll body lexical ⟨.new, [], Shelf.empty⟩ .root [] rfl
  generalize left : (runAll body).runAt ⟨.new, [], Shelf.empty⟩ = outcome at builds
  obtain ⟨result, ⟨⟨stack⟩, journal, shelf⟩⟩ := outcome
  obtain ⟨result_eq, stack_eq⟩ := builds
  simp only at result_eq stack_eq
  subst result_eq stack_eq
  simp only [session, Registration.session, left]
  cases firstFailure? body with
  | some failure => rfl
  | none => rfl

/-- Running a body adds what it spells out to the current group of any registrar, leaves the groups
below alone and returns the first failure that was not caught. On a new registrar the tree of the
body becomes the suite, unless there was such a failure. -/
theorem runAll_builds_tree (body : List (Statement Action)) (lexical : areLexical body = true) :
    (∀ (desk : Desk (Shelf Action) Action) (group : Group Action) (below : List (Group Action)),
      desk.registrar.stack = group :: below →
        ((runAll body).runAt desk).1 = ended (firstFailure? body) ∧
          ((runAll body).runAt desk).2.registrar.stack =
            (contentsAll body).addTo group :: below) ∧
      (session body).outcome =
        match firstFailure? body with
        | none => .ok ⟨tree body⟩
        | some failure => .error failure :=
  ⟨builds_runAll body lexical, session_outcome body lexical⟩

/-- A body with a failure two groups deep that is caught outside both of them. -/
def untidy : List (Statement Nat) :=
  [.hook .beforeEach 1,
    .it "first" 2,
    .catching (.describe "outer"
      [.hook .beforeEach 3,
        .it "kept" 4,
        .describe "inner" [.hook .afterEach 5, .fail (.noCurrentGroup "it"), .it "lost" 6],
        .it "lost as well" 7]),
    .hook .beforeEach 8,
    .it "last" 9]

/-- Both groups are there with what came before the failure, and each hook is where it was set. -/
theorem runAll_builds_tree_untidy :
    areLexical untidy = true ∧
      (session untidy).outcome = .ok ⟨none, [⟨"first", 2⟩, ⟨"last", 9⟩],
        [⟨some "outer", [⟨"kept", 4⟩], [⟨some "inner", [], [], ⟨none, some 5⟩⟩], ⟨some 3, none⟩⟩],
        ⟨some 8, none⟩⟩ ∧
      ((runAll untidy).runAt ⟨⟨[.named "open", .root]⟩, [], Shelf.empty⟩).2.registrar.stack =
        [(contentsAll untidy).addTo (.named "open"), .root] := by
  refine ⟨rfl, (runAll_builds_tree untidy rfl).2, ?_⟩
  exact ((runAll_builds_tree untidy rfl).1 ⟨⟨[.named "open", .root]⟩, [], Shelf.empty⟩
    (.named "open") [.root] rfl).2

end Statement

end TestTree
