/-
This file says which error the caller of a failing registration sees.

The result of a group's body is put aside while the group is closed, and closing can fail itself:
it needs two groups on the stack of the registrar that the body left on the desk, and that need not
be the registrar the body found. When closing fails, its error is returned and the error of the body
is lost.

An error on its way out of groups inside one another is put aside at every one of them, and every
closing takes one group off the stack. So it gets out if and only if there are as many groups below
the one on top as there are groups to close when it is raised. Bodies that never leave fewer groups
than they find always see to that.
-/

import TestTree.Proofs.Registration.Moves

namespace TestTree

/-- The number of groups on the stack of the registrar on the desk. -/
def Desk.height {Extra Action : Type} (desk : Desk Extra Action) : Nat :=
  desk.registrar.stack.length

namespace Registration

variable {Extra Action : Type}

/-! ### One group -/

/-- The desk at which the body of a new group begins. -/
def opened (name : String) (desk : Desk Extra Action) : Desk Extra Action :=
  ((openGroup name).runAt desk).2

/-- The error of a group that cannot be opened or closed. -/
def unclosed : RegistrationError := .noCurrentGroup "describe"

theorem runAt_openGroup_of_pos {desk : Desk Extra Action} (ready : 0 < desk.height)
    (name : String) :
    (openGroup name).runAt desk = (.ok (), opened name desk) ∧
      (opened name desk).height = desk.height + 1 := by
  obtain ⟨⟨stack⟩, journal, extra⟩ := desk
  cases stack with
  | nil => exact absurd ready (Nat.lt_irrefl 0)
  | cons group rest => exact ⟨rfl, rfl⟩

/-- A group cannot be opened on an empty stack. -/
theorem pos_of_openGroup {name : String} {desk after : Desk Extra Action}
    (succeeded : (openGroup name).runAt desk = (.ok (), after)) : 0 < desk.height := by
  obtain ⟨⟨stack⟩, journal, extra⟩ := desk
  cases stack with
  | nil => cases congrArg Prod.fst succeeded
  | cons group rest => exact Nat.succ_pos rest.length

/-- Closing a group needs another one below it, and takes one off the stack if there is any. -/
theorem closeGroup_result (desk : Desk Extra Action) :
    (closeGroup.runAt desk).1 = (if 1 < desk.height then .ok () else .error unclosed) ∧
      (closeGroup.runAt desk).2.height = desk.height - 1 := by
  obtain ⟨⟨stack⟩, journal, extra⟩ := desk
  rw [runAt_closeGroup]
  rcases stack with _ | ⟨child, _ | ⟨parent, others⟩⟩
  · exact ⟨rfl, rfl⟩
  · exact ⟨rfl, rfl⟩
  · exact ⟨(if_pos (Nat.succ_lt_succ (Nat.succ_pos others.length))).symm, rfl⟩

/-- Where a group can be opened, the result of its body is returned if and only if the group can
be closed behind it. -/
theorem describe_result {desk : Desk Extra Action} (ready : 0 < desk.height) (name : String)
    (body : Registration Extra Action Unit) :
    let left := body.runAt (opened name desk)
    ((describe name body).runAt desk).1 =
        (if 1 < left.2.height then left.1 else .error unclosed) ∧
      ((describe name body).runAt desk).2.height = left.2.height - 1 := by
  intro left
  obtain ⟨closed, lower⟩ := closeGroup_result left.2
  rw [runAt_describe_halves, (runAt_openGroup_of_pos ready name).1]
  show (andThen (closeGroup.runAt left.2) _).1 = _ ∧
    (andThen (closeGroup.runAt left.2) _).2.height = _
  unfold andThen
  rw [closed]
  by_cases enough : 1 < left.2.height
  · rw [if_pos enough, if_pos enough]
    exact ⟨rfl, lower⟩
  · rw [if_neg enough, if_neg enough]
    exact ⟨rfl, lower⟩

/-! ### Groups inside one another -/

/-- A group on the way to a failing part: its name, and what happens around it before it. -/
structure Level (Extra Action : Type) where
  before : Registration Extra Action Unit
  name : String

/-- A part of a registration inside groups, the outermost first. -/
def within (innermost : Registration Extra Action Unit) :
    List (Level Extra Action) → Registration Extra Action Unit
  | [] => innermost
  | level :: rest => do
    level.before
    describe level.name (within innermost rest)

/-- The way to the innermost group. -/
def descend : List (Level Extra Action) → Registration Extra Action Unit
  | [] => pure ()
  | level :: rest => do
    level.before
    openGroup level.name
    descend rest

/-- A registration that never leaves fewer groups on the stack than it finds. -/
def Keeps (registration : Registration Extra Action Unit) : Prop :=
  ∀ desk : Desk Extra Action, desk.height ≤ (registration.runAt desk).2.height

/-- The first part of a way was gone if the whole of it was. -/
theorem exists_of_descend {level : Level Extra Action} {rest : List (Level Extra Action)}
    {desk inside : Desk Extra Action}
    (reached : (descend (level :: rest)).runAt desk = (.ok (), inside)) :
    ∃ between, level.before.runAt desk = (.ok (), between) ∧ 0 < between.height ∧
      (descend rest).runAt (opened level.name between) = (.ok (), inside) := by
  rw [descend, runAt_bind] at reached
  cases first : level.before.runAt desk with
  | mk result between =>
    rw [first] at reached
    cases result with
    | error failure => cases congrArg Prod.fst reached
    | ok value =>
      simp only [andThen, runAt_bind] at reached
      cases second : (openGroup level.name).runAt between with
      | mk result after =>
        rw [second] at reached
        cases result with
        | error failure => cases congrArg Prod.fst reached
        | ok value =>
          have ready := pos_of_openGroup second
          obtain rfl : opened level.name between = after := congrArg Prod.snd second
          exact ⟨between, rfl, ready, reached⟩

/-- The way to the innermost group puts each group of it on the stack, if nothing on the way takes
groups off. -/
theorem height_descend {levels : List (Level Extra Action)} {desk inside : Desk Extra Action}
    (keeps : ∀ level ∈ levels, Keeps level.before)
    (reached : (descend levels).runAt desk = (.ok (), inside)) :
    desk.height + levels.length ≤ inside.height := by
  induction levels generalizing desk with
  | nil =>
    obtain rfl : desk = inside := congrArg Prod.snd reached
    exact Nat.le_refl _
  | cons level rest inductionHypothesis =>
    obtain ⟨own, others⟩ := List.forall_mem_cons.mp keeps
    obtain ⟨between, first, ready, further⟩ := exists_of_descend reached
    have kept : desk.height ≤ between.height := by
      have kept := own desk
      rwa [first] at kept
    have deeper := inductionHypothesis others further
    rw [(runAt_openGroup_of_pos ready level.name).2] at deeper
    rw [List.length_cons]
    omega

/-- An error passes as many groups as there are groups below the one on top. -/
theorem within_result {levels : List (Level Extra Action)}
    {innermost : Registration Extra Action Unit} {desk inside left : Desk Extra Action}
    {failure : RegistrationError} (reached : (descend levels).runAt desk = (.ok (), inside))
    (failed : innermost.runAt inside = (.error failure, left)) :
    ((within innermost levels).runAt desk).1 =
        .error (if levels.length ≤ left.height - 1 then failure else unclosed) ∧
      ((within innermost levels).runAt desk).2.height = left.height - levels.length := by
  induction levels generalizing desk with
  | nil =>
    obtain rfl : desk = inside := congrArg Prod.snd reached
    rw [within, failed]
    exact ⟨congrArg Except.error (if_pos (Nat.zero_le _)).symm, rfl⟩
  | cons level rest inductionHypothesis =>
    obtain ⟨between, first, ready, further⟩ := exists_of_descend reached
    obtain ⟨result, lower⟩ := inductionHypothesis further
    obtain ⟨returned, lowest⟩ := describe_result ready level.name (within innermost rest)
    rw [result, lower] at returned
    rw [lower] at lowest
    rw [within, runAt_bind, first]
    show ((describe level.name (within innermost rest)).runAt between).1 = _ ∧
      ((describe level.name (within innermost rest)).runAt between).2.height = _
    rw [returned, lowest, List.length_cons]
    refine ⟨?_, by omega⟩
    -- This group can be closed exactly if there is one more group below the top than inside it.
    by_cases enough : rest.length + 1 ≤ left.height - 1
    · rw [if_pos (show 1 < left.height - rest.length by omega), if_pos enough,
        if_pos (show rest.length ≤ left.height - 1 by omega)]
    · rw [if_neg (show ¬ 1 < left.height - rest.length by omega), if_neg enough]

/-- The error of a body is that of its session. -/
theorem outcome_of_error {extra : Extra} {body : Registration Extra Action Unit}
    {failure : RegistrationError} (failed : (body.runAt ⟨.new, [], extra⟩).1 = .error failure) :
    (session extra body).outcome = .error failure := by
  simp only [session, Session.outcome, failed]

/-- The error of a failing part gets out of the groups around it, and out of the suite, unless the
stack is too low to close all of them. It is never too low if neither the failing part nor anything
before it leaves fewer groups than it finds. -/
theorem failing_part_result (levels : List (Level Extra Action))
    (innermost : Registration Extra Action Unit) (desk inside left : Desk Extra Action)
    (failure : RegistrationError) (reached : (descend levels).runAt desk = (.ok (), inside))
    (failed : innermost.runAt inside = (.error failure, left)) :
    let returned := if levels.length ≤ left.height - 1 then failure else unclosed
    ((within innermost levels).runAt desk).1 = .error returned ∧
      (∀ extra, desk = ⟨.new, [], extra⟩ →
        (session extra (within innermost levels)).outcome = .error returned) ∧
      (0 < desk.height → (∀ level ∈ levels, Keeps level.before) → Keeps innermost →
        returned = failure) := by
  intro returned
  have result := (within_result reached failed).1
  refine ⟨result, ?_, fun ready keeps keepsInnermost => if_pos ?_⟩
  · rintro extra rfl
    exact outcome_of_error result
  · have deep := height_descend keeps reached
    have kept := keepsInnermost inside
    rw [failed] at kept
    simp only at kept
    omega

/-- A body that puts the registrar aside and then fails, inside two groups. -/
def abandoning : Registration (Shelf Unit) Unit Unit :=
  Statement.runAll [.take "slot", .fail (.noCurrentGroup "it")]

/-- A group, and in it behind a test another one. -/
def around : List (Level (Shelf Unit) Unit) := [⟨pure (), "outer"⟩, ⟨it "test" (), "inner"⟩]

/-- The error of a body that leaves the stack alone gets out of both groups, and that of a body
which leaves a new registrar behind gets out of neither. -/
theorem failing_part_result_around :
    let inside := ((descend around).runAt ⟨.new, [], .empty⟩).2
    let failing := (Statement.fail (.noCurrentGroup "it")).run
    (descend around).runAt ⟨.new, [], .empty⟩ = (.ok (), inside) ∧
      (failing.runAt inside).1 = .error (.noCurrentGroup "it") ∧
      (session .empty (within failing around)).outcome = .error (.noCurrentGroup "it") ∧
      (abandoning.runAt inside).1 = .error (.noCurrentGroup "it") ∧
      (session .empty (within abandoning around)).outcome = .error unclosed := by
  intro inside failing
  obtain ⟨_, survives, _⟩ := failing_part_result around failing ⟨.new, [], .empty⟩ inside _
    (.noCurrentGroup "it") rfl rfl
  obtain ⟨_, lost, _⟩ := failing_part_result around abandoning ⟨.new, [], .empty⟩ inside _
    (.noCurrentGroup "it") rfl rfl
  exact ⟨rfl, rfl, survives .empty rfl, rfl, lost .empty rfl⟩

/-- Not every error of a body is the one that its caller sees: that of the body above is not, not
even with a single group around it. -/
theorem error_hidden_by_closing :
    (Statement.session [.describe "group" [.take "slot", .fail (.noCurrentGroup "it")]] :
      Session (Shelf Unit) Unit).outcome = .error (.noCurrentGroup "describe") ∧
    ¬ ∀ (name : String) (body : Registration (Shelf Unit) Unit Unit)
      (desk : Desk (Shelf Unit) Unit) (failure : RegistrationError), 0 < desk.height →
        (body.runAt (opened name desk)).1 = .error failure →
          ((describe name body).runAt desk).1 = .error failure := by
  refine ⟨rfl, fun unchanged => ?_⟩
  have returned : (Except.error unclosed : Except RegistrationError Unit) =
      .error (.noCurrentGroup "it") :=
    unchanged "group" abandoning ⟨.new, [], .empty⟩ (.noCurrentGroup "it") Nat.one_pos rfl
  exact absurd (Except.error.inj returned) (by decide)

end Registration

end TestTree
